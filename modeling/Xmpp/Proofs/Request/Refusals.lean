import Xmpp.Proofs.Client.Forgery
import Xmpp.Proofs.Client.Loss

/-!
# Why a request failed

A reply of type `error` has an `error` child in the namespace of client stanzas, and
its request is expected to fail with what that child says: the one condition it names,
and of its descriptions the one whose language comes first. That the schema is read
in this way, whatever the order of the children, is `StanzaError.Says.of_read?`.

The child is looked for by its name alone, though. A reply may carry any payload,
such as an echo of the request it refuses, and if an element of that name but of a
namespace of its own stands before the error (`Element.impostor?`) it is read in its
place, though nothing obliges it to say anything about conditions. So the request
fails with what the peer reports exactly if there is no such element, or it happens
to say the same (`Client.Run.fails_iff`). Without a child of its own in the
namespace of conditions it makes an undefined condition of every error
(`Client.not_forall_reports`).
-/

namespace Xmpp

/-! ## What an error says -/

namespace Element

/-- Whether the element describes an error in words. -/
def isDescription (e : Element) : Bool :=
  e.is "text" Namespace.stanzaErrors

/-- Whether the element is to name the condition of an error: all of the namespace
are, but for the descriptions. -/
def isDefined (e : Element) : Bool :=
  e.ns == Namespace.stanzaErrors && e.name != "text"

/-- The language an element is in; a missing one is the empty one. -/
def language (e : Element) : String :=
  (e.attr "xml:lang").getD ""

/-- The descriptions among the children of an element. -/
def descriptions (e : Element) : List Element :=
  e.children.filter isDescription

end Element

/-- **The description in the first language** is that of a child whose language comes
before those of all others. -/
inductive FirstIn (descriptions : List Element) : Option String → Prop
  /-- There is none. -/
  | silent (empty : descriptions = []) : FirstIn descriptions none
  /-- There is one, wherever it stands. -/
  | spoken {front back : List Element} {child : Element}
      (split : descriptions = front ++ child :: back)
      (first : ∀ other ∈ front ++ back, child.language < other.language) :
      FirstIn descriptions (some child.text)

/-- **What an `error` element says**: the condition one of its children names, and a
description. -/
structure StanzaError.Says (e : Element) (condition : Condition) (text : Option String) : Prop where
  /-- One child has the name of the condition, and no other names any. -/
  condition : ∃ child, e.children.filter Element.isDefined = [child]
    ∧ child.name = condition.name
  /-- The description is the one in the first language. -/
  text : FirstIn e.descriptions text

namespace Texts

/-- **Descriptions are in order**: the languages ascend. -/
def Sorted (texts : Texts) : Prop :=
  texts.Pairwise fun a b => a.1 < b.1

/-- Adding a description keeps all others, and the order. -/
theorem Sorted.insert? {texts texts' : Texts} {lang text : String} (sorted : texts.Sorted)
    (h : texts.insert? lang text = some texts') :
    texts'.Perm ((lang, text) :: texts) ∧ texts'.Sorted := by
  induction texts generalizing texts' with
  | nil =>
    obtain rfl := Option.some.inj h
    exact ⟨.refl _, List.pairwise_singleton _ _⟩
  | cons first rest ih =>
    obtain ⟨l, t⟩ := first
    obtain ⟨before, ordered⟩ := List.pairwise_cons.1 sorted
    rw [Texts.insert?] at h
    split at h
    · cases h
    · rename_i hne
      split at h
      · rename_i hlt
        obtain rfl := Option.some.inj h
        refine ⟨.refl _, List.pairwise_cons.2 ⟨fun other hother => ?_, sorted⟩⟩
        rcases List.mem_cons.1 hother with rfl | hother
        · exact hlt
        · exact String.lt_trans hlt (before other hother)
      · rename_i hnlt
        obtain ⟨added, hadded, rfl⟩ := Option.map_eq_some_iff.1 h
        obtain ⟨perm, ordered'⟩ := ih ordered hadded
        refine ⟨(perm.cons _).trans (.swap ..), List.pairwise_cons.2 ⟨fun other hother => ?_,
          ordered'⟩⟩
        rcases List.mem_cons.1 (perm.mem_iff.1 hother) with rfl | hother
        · exact ((Std.lt_trichotomy l lang).resolve_right fun h => h.elim
            (fun heq => hne heq.symm) hnlt)
        · exact before other hother

/-- **The first description in order** is the one in the first language. -/
theorem Sorted.firstIn {texts : Texts} {descriptions : List Element} (sorted : texts.Sorted)
    (perm : texts.Perm (descriptions.map fun d => (d.language, d.text))) :
    FirstIn descriptions (texts.head?.map (·.2)) := by
  cases texts with
  | nil => exact .silent (List.map_eq_nil_iff.1 perm.nil_eq.symm)
  | cons first rest =>
    obtain ⟨before, -⟩ := List.pairwise_cons.1 sorted
    obtain ⟨child, hchild, hfirst⟩ := List.mem_map.1 (perm.subset List.mem_cons_self)
    obtain ⟨front, back, rfl⟩ := List.append_of_mem hchild
    -- what is left of the descriptions is the rest of the texts
    have hrest : rest.Perm ((front ++ back).map fun d => (d.language, d.text)) := by
      refine List.Perm.cons_inv (a := first) (perm.trans ?_)
      rw [List.map_append, List.map_cons, hfirst, List.map_append]
      exact List.perm_middle
    subst hfirst
    exact .spoken rfl fun other hother =>
      before _ (hrest.mem_iff.2 (List.mem_map_of_mem hother))

end Texts

namespace StanzaError

/-- **What has been read** of the children so far. -/
structure Parts.Of (p : Parts) (done : List Element) : Prop where
  /-- The condition is the one child that may name it. -/
  condition : match p.condition with
    | none => done.filter Element.isDefined = []
    | some c => ∃ child, done.filter Element.isDefined = [child] ∧ child.name = c.name
  /-- The descriptions are all there. -/
  perm : p.texts.Perm ((done.filter Element.isDescription).map fun d => (d.language, d.text))
  /-- They are in order. -/
  sorted : p.texts.Sorted

/-- What stands for a condition has its name. -/
theorem name_of_readCondition? {e : Element} {c : Condition} (h : readCondition? e = some c) :
    e.name = c.name := by
  unfold readCondition? at h
  split at h
  · exact (beq_iff_eq.1 (List.find?_some (p := fun c => Condition.name c == e.name) h)).symm
  · cases h

/-- **Reading one more child**: it is a description, it names the condition, or it is of another
namespace and passed over. -/
theorem Parts.next?_cases {p p' : Parts} {child : Element} (h : p.next? child = some p') :
    (child.isDescription = true ∧ child.isDefined = false ∧ p'.condition = p.condition
        ∧ p.texts.insert? child.language child.text = some p'.texts)
      ∨ (child.isDescription = false ∧ child.isDefined = true ∧ p.condition = none
        ∧ (∃ c, p'.condition = some c ∧ child.name = c.name) ∧ p'.texts = p.texts)
      ∨ (child.isDescription = false ∧ child.isDefined = false ∧ p'.condition = p.condition
        ∧ p'.texts = p.texts) := by
  unfold Element.isDescription Element.isDefined Element.is
  unfold Parts.next? at h
  split at h
  · rename_i hns
    split at h
    · rename_i hname
      obtain ⟨texts, htexts, rfl⟩ := Option.map_eq_some_iff.1 h
      unfold Texts.read? at htexts
      split at htexts
      · exact .inl ⟨by simp [hname, hns], by simp [beq_iff_eq.1 hname], rfl, htexts⟩
      · cases htexts
    · rename_i hname
      split at h
      · cases h
      · rename_i hcondition
        have hname : child.name ≠ "text" := fun h => hname (beq_iff_eq.2 h)
        obtain ⟨c, hc, rfl⟩ := Option.map_eq_some_iff.1 h
        exact .inr (.inl ⟨by simp [hname], by simp [hname, hns], by simpa using hcondition,
          ⟨c, rfl, name_of_readCondition? hc⟩, rfl⟩)
  · rename_i hns
    split at h
    · cases h
    · obtain rfl := Option.some.inj h
      exact .inr (.inr ⟨by simp [hns], by simp [hns], rfl, rfl⟩)

/-- What has been read is still right after one more child. -/
theorem Parts.Of.next? {p p' : Parts} {done : List Element} {child : Element} (read : p.Of done)
    (h : p.next? child = some p') : p'.Of (done ++ [child]) := by
  obtain ⟨condition, perm, sorted⟩ := read
  have taken {kind : Element → Bool} (h : kind child = true) :
      (done ++ [child]).filter kind = done.filter kind ++ [child] := by
    simp [List.filter_append, h]
  have passed {kind : Element → Bool} (h : kind child = false) :
      (done ++ [child]).filter kind = done.filter kind := by
    simp [List.filter_append, h]
  rcases Parts.next?_cases h with ⟨hdescription, hdefined, hcondition, htexts⟩
    | ⟨hdescription, hdefined, hnone, ⟨c, hsome, hname⟩, htexts⟩
    | ⟨hdescription, hdefined, hcondition, htexts⟩
  · obtain ⟨inserted, sorted'⟩ := sorted.insert? htexts
    refine ⟨?_, ?_, sorted'⟩
    · rw [passed hdefined, hcondition]
      exact condition
    · rw [taken hdescription, List.map_append]
      exact inserted.trans ((perm.cons _).trans (List.perm_append_singleton _ _).symm)
  · rw [hnone] at condition
    refine ⟨?_, ?_, htexts ▸ sorted⟩
    · rw [taken hdefined, hsome, condition]
      exact ⟨child, rfl, hname⟩
    · rw [passed hdescription, htexts]
      exact perm
  · refine ⟨?_, ?_, htexts ▸ sorted⟩
    · rw [passed hdefined, hcondition]
      exact condition
    · rw [passed hdescription, htexts]
      exact perm

/-- Reading all children. -/
theorem Parts.Of.foldlM {p p' : Parts} {done rest : List Element} (read : p.Of done)
    (h : rest.foldlM Parts.next? p = some p') : p'.Of (done ++ rest) := by
  induction rest generalizing p done with
  | nil =>
    obtain rfl := Option.some.inj h
    rw [List.append_nil]
    exact read
  | cons child rest ih =>
    rw [List.foldlM_cons] at h
    obtain ⟨next, hnext, h⟩ := Option.bind_eq_some_iff.1 h
    rw [List.append_cons]
    exact ih (read.next? hnext) h

/-- **An error that keeps to the schema says what it is read as.** -/
theorem Says.of_read? {e : Element} {error : StanzaError} (h : read? e = some error) :
    Says e error.condition (error.texts.head?.map (·.2)) := by
  unfold read? at h
  split at h
  · obtain ⟨kind, -, h⟩ := Option.bind_eq_some_iff.1 h
    -- the address is looked at, but nothing comes of it
    have h : ((e.children.foldlM Parts.next? {}).bind fun parts =>
        parts.condition.bind fun condition =>
          some { kind, condition, texts := parts.texts : StanzaError }) = some error := by
      dsimp only at h
      split at h
      · split at h
        · cases h
        · exact h
      · exact h
    obtain ⟨parts, hparts, h⟩ := Option.bind_eq_some_iff.1 h
    obtain ⟨condition, hcondition, h⟩ := Option.bind_eq_some_iff.1 h
    obtain rfl := Option.some.inj h
    have start : ({} : Parts).Of [] := ⟨rfl, .refl _, List.Pairwise.nil⟩
    have read : parts.Of ([] ++ e.children) := start.foldlM hparts
    have hdefined := read.condition
    rw [hcondition] at hdefined
    exact ⟨hdefined, read.sorted.firstIn read.perm⟩
  · cases h

end StanzaError

/-! ## What is read of a reply -/

/-- **What stands in for the error of a reply**: its first child of that name, if it is
of another namespace. -/
def Element.impostor? (reply : Element) : Option Element :=
  (reply.children.find? (·.name == "error")).filter (·.ns != Namespace.client)

namespace StanzaError

variable {reply error : Element}

/-- Only the impostor, or else the error itself, is read. -/
theorem ofReply_eq (sole : reply.children.filter (·.is "error" Namespace.client) = [error]) :
    ofReply reply = salvage (reply.impostor?.getD error) := by
  have herror : error ∈ reply.children.filter (·.is "error" Namespace.client) := by
    rw [sole]
    exact List.mem_singleton_self _
  obtain ⟨hmem, his⟩ := List.mem_filter.1 herror
  unfold ofReply Element.impostor?
  cases hfirst : reply.children.find? (·.name == "error") with
  | none => exact absurd (Bool.and_eq_true_iff.1 his).1 (List.find?_eq_none.1 hfirst error hmem)
  | some first =>
    dsimp only
    by_cases hns : first.ns = Namespace.client
    · have hfound : first ∈ reply.children.filter (·.is "error" Namespace.client) :=
        List.mem_filter.2 ⟨List.mem_of_find?_eq_some hfirst,
          Bool.and_eq_true_iff.2 ⟨List.find?_some (p := fun e => Element.name e == "error") hfirst,
            beq_iff_eq.2 hns⟩⟩
      rw [sole, List.mem_singleton] at hfound
      rw [Option.filter_some_neg (by simp [hns]), hfound]
      rfl
    · rw [Option.filter_some_pos (by simp [hns])]
      rfl

/-- **An impostor that knows nothing of conditions** makes the error undefined. -/
theorem salvage_impostor {i : Element} (h : reply.impostor? = some i)
    (foreign : i.childrenIn Namespace.stanzaErrors = []) :
    salvage i = (.undefinedCondition, none) := by
  have hns : i.ns ≠ Namespace.client := by
    simpa using (Option.filter_eq_some_iff.1 h).2
  have hread : read? i = none := by
    unfold read?
    rw [if_neg (by simp [Element.is, hns])]
  have hchild : i.child? "text" Namespace.stanzaErrors = none := by
    refine List.find?_eq_none.2 fun child hmem his => ?_
    exact List.filter_eq_nil_iff.1 foreign child hmem (Bool.and_eq_true_iff.1 his).2
  unfold salvage
  rw [hread]
  dsimp only
  rw [findCondition?, foreign, hchild]
  rfl

end StanzaError

/-! ## How a request fails -/

namespace Client

open Delivery

/-- **A request fails when an element comes in**: the element amounts to an error, all
that wait for the request are told that error once, in the order in which they were
attached, and the request is not waited for any more. -/
structure Fails (c : Client) (r : Request) (reply : Element) (error : RequestError) : Prop where
  /-- The element amounts to the error. -/
  outcome : Request.outcomeOf reply = .error error
  /-- The error is told to all who wait, and this is all that happens. -/
  receive : c.receive reply =
    ({ c with
      session := ({ c.session.countReceived reply with
        registry := c.session.registry.erase r.key } : Session).perform
          (r.handlers.flatMap fun handler => handler.effects (.error error)) } : Client).run

variable {c : Client} {given registered : List Request} {config : Config}
  {catalogue : Catalogue}

/-- **A request fails with what is read of the reply.** -/
theorem Run.fails (run : Run (blank config catalogue) given registered c) {r : Request}
    {reply : Element} (pending : r ∈ c.session.registry.requests)
    (answered : r.AnsweredBy c.session.registry.ownJid reply)
    (refused : reply.attr "type" = some "error") :
    c.Fails r reply (.stanza (StanzaError.ofReply reply).1 (StanzaError.ofReply reply).2) := by
  have houtcome : Request.outcomeOf reply =
      .error (.stanza (StanzaError.ofReply reply).1 (StanzaError.ofReply reply).2) :=
    if_pos refused
  refine ⟨houtcome, ?_⟩
  rw [run.discerns.receives, run.discerns.outcome reply r pending answered, Request.answer?,
    houtcome, Request.effectsOf_fail]

/-- **A request fails with what the peer reports** if nothing stands in for the error of
the reply, or it happens to say the same. Otherwise it fails with whatever is found in
what stands in for it, which mostly is nothing. -/
theorem Run.fails_iff (run : Run (blank config catalogue) given registered c) {r : Request}
    {reply error : Element} {e : StanzaError} (pending : r ∈ c.session.registry.requests)
    (answered : r.AnsweredBy c.session.registry.ownJid reply)
    (refused : reply.attr "type" = some "error")
    (sole : reply.children.filter (·.is "error" Namespace.client) = [error])
    (reads : StanzaError.read? error = some e) :
    ∃ text, StanzaError.Says error e.condition text
      ∧ (c.Fails r reply (.stanza e.condition text) ↔
          ∀ i, reply.impostor? = some i → StanzaError.salvage i = (e.condition, text))
      ∧ ∀ i, reply.impostor? = some i →
          c.Fails r reply (.stanza (StanzaError.salvage i).1 (StanzaError.salvage i).2)
          ∧ (i.childrenIn Namespace.stanzaErrors = [] →
              StanzaError.salvage i = (.undefinedCondition, none)) := by
  have fails := run.fails pending answered refused
  rw [StanzaError.ofReply_eq sole] at fails
  have hsalvage : StanzaError.salvage error = (e.condition, e.texts.head?.map (·.2)) := by
    unfold StanzaError.salvage
    rw [reads]
  refine ⟨_, StanzaError.Says.of_read? reads, ?_⟩
  cases himpostor : reply.impostor? with
  | none =>
    rw [himpostor, Option.getD_none, hsalvage] at fails
    exact ⟨iff_of_true fails nofun, nofun⟩
  | some i =>
    rw [himpostor, Option.getD_some] at fails
    refine ⟨⟨fun fails' j hj => ?_, fun h => ?_⟩, fun j hj => ?_⟩
    · obtain rfl := Option.some.inj hj
      have heq := fails.outcome.symm.trans fails'.outcome
      injection heq with heq
      injection heq with hcondition htext
      exact Prod.ext hcondition htext
    · rw [h i rfl] at fails
      exact fails
    · obtain rfl := Option.some.inj hj
      exact ⟨fails, StanzaError.salvage_impostor himpostor⟩

namespace Rehearsal

/-- What went wrong with an application, in its own words. -/
def incident : Element where
  name := "error"
  ns := "urn:example:incident"
  content := [.child (.ofText "item" "urn:example:incident" "crash")]

/-- Telling somebody about it; a future waits for the reply. -/
def confides : Draft where
  stanza :=
    { name := "iq"
      ns := Namespace.client
      attributes := [("type", "set"), ("id", "x"), ("to", "romeo@montague.lit")]
      content := [.child incident] }
  pipeline := .respond .reply (.waiter 7)

/-- There is no such node, in two languages. -/
def noSuchNode : Element where
  name := "error"
  ns := Namespace.client
  attributes := [("type", "cancel")]
  content :=
    [.child { name := "text", ns := Namespace.stanzaErrors, attributes := [("xml:lang", "it")]
              content := [.text "Nodo inesistente"] },
     .child { name := "item-not-found", ns := Namespace.stanzaErrors },
     .child { name := "text", ns := Namespace.stanzaErrors, attributes := [("xml:lang", "en")]
              content := [.text "No such node"] }]

/-- The reply of type `error`, with these children. -/
def declines (children : List Element) : Element where
  name := "iq"
  ns := Namespace.client
  attributes := [("type", "error"), ("id", "x"), ("from", "romeo@montague.lit")]
  content := Element.nodes children

/-- Somebody is told, and has not replied yet. -/
def confidant : Client :=
  [.connected {}, .send confides].foldl Client.operate furnished

/-- This came about in a run. -/
theorem run_confidant : ∃ given registered, Run (blank account []) given registered confidant := by
  have created : create account [] [] = .ok furnished := create_account
  obtain ⟨given, registered, run⟩ := Run.of_create created
  have sound : [Operation.connected {}, .send confides].Forall (·.Within Change.Sound) :=
    ⟨Operation.within_sound rfl, fun _ => trivial,
      fun usual now drawn => ⟨confides, usual, now, drawn, rfl⟩⟩
  exact run.exists_foldl_operate (atRest_blank _ _) _ (List.forall_iff_forall_mem.1 sound)

/-- The request waits for the reply, whatever children that has. -/
theorem answeredBy_declines (children : List Element) :
    ∃ r ∈ confidant.session.registry.requests,
      r.AnsweredBy confidant.session.registry.ownJid (declines children) := by
  have waits : confidant.session.registry.requests.map (fun r => (r.key, r.recipient)) =
      [(⟨"iq", "x"⟩, some ⟨some "romeo", "montague.lit", none⟩)] := by
    decide +kernel
  obtain ⟨r, hr, hwaits⟩ := List.map_eq_singleton_iff.1 waits
  obtain ⟨hkey, hrecipient⟩ := Prod.mk.inj hwaits
  have hsender : Jid.parse "romeo@montague.lit" = .ok ⟨some "romeo", "montague.lit", none⟩ := rfl
  refine ⟨r, hr ▸ List.mem_singleton_self r, ⟨rfl, .inr rfl⟩, ?_,
    .asked rfl hsender hrecipient rfl⟩
  rw [hkey]
  rfl

end Rehearsal

open Rehearsal

/-- In the rehearsal the application's own account of what went wrong follows the error,
and the request fails as it should, in the language that comes first. -/
theorem fails_iff_rehearsal :
    ∃ r ∈ confidant.session.registry.requests,
      r.AnsweredBy confidant.session.registry.ownJid (declines [noSuchNode, incident])
      ∧ StanzaError.Says noSuchNode .itemNotFound (some "No such node")
      ∧ confidant.Fails r (declines [noSuchNode, incident])
          (.stanza .itemNotFound (some "No such node"))
      ∧ (confidant.receive (declines [noSuchNode, incident])).session.settled =
          [(7, .error (.stanza .itemNotFound (some "No such node")))] := by
  obtain ⟨given, registered, run⟩ := run_confidant
  obtain ⟨r, hr, answered⟩ := answeredBy_declines [noSuchNode, incident]
  have reads : StanzaError.read? noSuchNode =
      some ⟨.cancel, .itemNotFound, [("en", "No such node"), ("it", "Nodo inesistente")]⟩ := by
    decide +kernel
  have outcome : Request.outcomeOf (declines [noSuchNode, incident]) =
      .error (.stanza .itemNotFound (some "No such node")) := by
    decide +kernel
  obtain ⟨text, reported, fails, -⟩ := run.fails_iff hr answered rfl rfl reads
  have fails := fails.2 nofun
  have heq := outcome.symm.trans fails.outcome
  injection heq with heq
  injection heq with _ htext
  subst htext
  exact ⟨r, hr, answered, reported, fails, by decide +kernel⟩

/-- **Not every request fails with what the peer reports.** -/
theorem not_forall_reports :
    ¬ ∀ (given registered : List Request) (c : Client) (r : Request) (reply error : Element)
        (e : StanzaError), Run (blank account []) given registered c →
      r ∈ c.session.registry.requests → r.AnsweredBy c.session.registry.ownJid reply →
      reply.attr "type" = some "error" →
      reply.children.filter (·.is "error" Namespace.client) = [error] →
      StanzaError.read? error = some e →
      ∃ text, StanzaError.Says error e.condition text
        ∧ c.Fails r reply (.stanza e.condition text) := by
  intro h
  obtain ⟨given, registered, run⟩ := run_confidant
  obtain ⟨r, hr, answered⟩ := answeredBy_declines [incident, noSuchNode]
  obtain ⟨text, -, fails⟩ := h given registered confidant r _ noSuchNode
    ⟨.cancel, .itemNotFound, [("en", "No such node"), ("it", "Nodo inesistente")]⟩
    run hr answered rfl rfl (by decide +kernel)
  have undefined : Request.outcomeOf (declines [incident, noSuchNode]) =
      .error (.stanza .undefinedCondition none) := by
    decide +kernel
  have hcondition := undefined.symm.trans fails.outcome
  injection hcondition with hcondition
  injection hcondition with hcondition
  cases hcondition

end Client

end Xmpp
