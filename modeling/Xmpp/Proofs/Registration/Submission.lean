import Mathlib.Data.List.Induction
import Mathlib.Logic.Function.Basic
import Xmpp.Proofs.Module.Discovery
import Xmpp.Registration.Form

/-!
# What is left of a form when it is submitted

A form that was filled in goes back to the server as a query of its own, and the two shapes of
forms go back in two ways. A field of a data form is an element with an element for its value, so
that anything can be said in it. A field of a plain query *is* an element: its name must not be
one that means something else there, and a value that is empty cannot be told from one that is
missing (`Form.Tellable`). No field that was read from a plain query is like that, since it was
told in the same way, and so none gets lost as long as no such field is set
(`Form.Readable.ofReply_eq`).

Setting fields one after another is the second half. Where a name stands several times, only the
first field of the name is ever set, and a name that nobody asked for goes to the end when it is
first set and stays there. What a sequence of settings comes to can therefore be said at once: it
revises the fields there are by what each name was last set to, and adds the names that are fresh
(`Form.fields_setAll`).
-/

namespace Xmpp

namespace Form

variable {form : Form} {name value : String} {value? value?' : String → Option String}
variable {fields front back : List (String × Option String)} {f : String × Option String}

/-! ## Setting one field -/

/-- A name found in front is set there. -/
theorem setField_append_of_mem (h : name ∈ front.map (·.1)) :
    setField name value (front ++ back) = setField name value front ++ back := by
  induction front with
  | nil => cases h
  | cons g rest ih =>
    rw [List.cons_append, setField, setField]
    split
    · rfl
    · rename_i hg
      have hrest : name ∈ rest.map (·.1) :=
        (List.mem_cons.1 h).resolve_left fun hname => hg (beq_iff_eq.2 hname.symm)
      rw [ih hrest, List.cons_append]

/-- A name not found in front is set behind. -/
theorem setField_append_of_not_mem (h : name ∉ front.map (·.1)) :
    setField name value (front ++ back) = front ++ setField name value back := by
  induction front with
  | nil => rfl
  | cons g rest ih =>
    obtain ⟨hg, hrest⟩ := not_or.1 (mt List.mem_cons.2 h)
    rw [List.cons_append, setField, if_neg (fun hname => hg (beq_iff_eq.1 hname).symm), ih hrest,
      List.cons_append]

/-- A name that is not there is added at the end. -/
theorem setField_of_not_mem (h : name ∉ fields.map (·.1)) :
    setField name value fields = fields ++ [(name, some value)] := by
  have hset : setField name value (fields ++ []) = fields ++ setField name value [] :=
    setField_append_of_not_mem h
  rwa [List.append_nil] at hset

/-- Setting brings in one field at most. -/
theorem of_mem_setField (h : f ∈ setField name value fields) :
    f ∈ fields ∨ f = (name, some value) := by
  induction fields with
  | nil => exact .inr (List.mem_singleton.1 h)
  | cons g rest ih =>
    rw [setField] at h
    split at h
    · rename_i hg
      rw [beq_iff_eq.1 hg] at h
      exact (List.mem_cons.1 h).symm.imp (List.mem_cons_of_mem g) id
    · rcases List.mem_cons.1 h with rfl | hrest
      · exact .inl (List.mem_cons_self ..)
      · exact (ih hrest).imp (List.mem_cons_of_mem g) id

/-! ## Revising fields -/

/-- **Fields with new values.** What there is for a name goes to the first field of that name;
the fields that repeat it stay as they are. -/
def revised (value? : String → Option String) (fields : List (String × Option String)) :
    List (String × Option String) :=
  fields.mapIdx fun i f =>
    if f.1 ∈ (fields.take i).map (·.1) then f else (f.1, (value? f.1).or f.2)

/-- Whether the last field gets a new value depends on those before it, which do not depend on
it. -/
theorem revised_concat :
    revised value? (fields ++ [f])
      = revised value? fields
        ++ [if f.1 ∈ fields.map (·.1) then f else (f.1, (value? f.1).or f.2)] := by
  rw [revised, List.mapIdx_concat, List.take_left]
  refine congrArg (· ++ _) (List.ext_getElem (by simp [revised]) fun i hi hi' => ?_)
  have hi : i ≤ fields.length := by simpa using Nat.le_of_lt hi
  simp only [revised, List.getElem_mapIdx, List.take_append_of_le_length hi]

/-- Revising changes no name. -/
@[simp] theorem names_revised : (revised value? fields).map (·.1) = fields.map (·.1) := by
  induction fields using List.reverseRecOn with
  | nil => rfl
  | append_singleton fields f ih =>
    rw [revised_concat, List.map_append, List.map_append, ih]
    congr 1
    split <;> rfl

/-- Only what there is for the names of the fields matters. -/
theorem revised_congr (h : ∀ n ∈ fields.map (·.1), value? n = value?' n) :
    revised value? fields = revised value?' fields := by
  induction fields using List.reverseRecOn with
  | nil => rfl
  | append_singleton fields f ih =>
    rw [List.map_append] at h
    rw [revised_concat, revised_concat, ih fun n hn => h n (List.mem_append_left _ hn),
      h f.1 (by simp)]

/-- Where there is nothing new, nothing changes. -/
theorem revised_none : revised (fun _ => none) fields = fields := by
  induction fields using List.reverseRecOn with
  | nil => rfl
  | append_singleton fields f ih =>
    rw [revised_concat, ih]
    split <;> rfl

/-- **Setting a field that is there** comes to revising by one value more. -/
theorem setField_revised (h : name ∈ fields.map (·.1)) :
    setField name value (revised value? fields)
      = revised (Function.update value? name (some value)) fields := by
  induction fields using List.reverseRecOn with
  | nil => cases h
  | append_singleton fields f ih =>
    rw [revised_concat, revised_concat]
    by_cases hfront : name ∈ fields.map (·.1)
    · rw [setField_append_of_mem (by simpa using hfront), ih hfront]
      -- the last field is not the first of the name that is set
      split
      · rfl
      · rename_i hf
        have hname : f.1 ≠ name := fun hname => hf (hname ▸ hfront)
        rw [Function.update_of_ne hname]
    · have hname : f.1 = name := by
        rw [List.map_append, List.mem_append] at h
        exact (List.mem_singleton.1 (h.resolve_left hfront)).symm
      have hsame : revised (Function.update value? name (some value)) fields
          = revised value? fields :=
        revised_congr fun n hn => Function.update_of_ne (ne_of_mem_of_not_mem hn hfront) _ _
      rw [setField_append_of_not_mem (by simpa using hfront), hsame, if_neg (hname ▸ hfront),
        if_neg (hname ▸ hfront), hname, Function.update_self, Option.some_or, setField,
        if_pos (beq_self_eq_true name)]

/-- Fields that are yet to be filled in. -/
def blank (names : List String) : List (String × Option String) :=
  names.map fun n => (n, none)

@[simp] theorem names_blank (names : List String) : (blank names).map (·.1) = names := by
  rw [blank, List.map_map]
  exact List.map_id names

theorem blank_concat (names : List String) :
    blank (names ++ [name]) = blank names ++ [(name, none)] :=
  List.map_append ..

/-- Revising fields with names added that were not there gives these what there is for them. -/
theorem revised_append_names {names : List String} (distinct : names.Nodup)
    (apart : ∀ n ∈ names, n ∉ fields.map (·.1)) :
    revised value? (fields ++ blank names)
      = revised value? fields ++ names.map fun n => (n, value? n) := by
  induction names using List.reverseRecOn with
  | nil => simp [blank]
  | append_singleton names n ih =>
    obtain ⟨hnames, -, hn⟩ := List.nodup_append.1 distinct
    have hapart : n ∉ (fields ++ blank names).map (·.1) := by
      rw [List.map_append, names_blank, List.mem_append]
      rintro (hfield | hname)
      · exact apart n (by simp) hfield
      · exact hn n hname n (List.mem_singleton_self n) rfl
    rw [blank_concat, ← List.append_assoc, revised_concat, if_neg hapart,
      ih hnames fun m hm => apart m (List.mem_append_left _ hm), Option.or_none, List.map_append,
      List.append_assoc, List.map_singleton]

/-! ## Setting one field after another -/

/-- **The form after fields were set**, one after another. -/
def setAll (form : Form) (settings : List (String × String)) : Form :=
  settings.foldl (fun form setting => form.set setting.1 setting.2) form

/-- What a name was last set to. -/
def lastSet? (settings : List (String × String)) (name : String) : Option String :=
  settings.reverse.lookup name

/-- The names that were set although nobody asked for them, in the order in which they were
first set. -/
def unasked (form : Form) (settings : List (String × String)) : List String :=
  Order.fresh form.fieldNames (settings.map (·.1))

theorem setAll_concat (settings : List (String × String)) :
    form.setAll (settings ++ [(name, value)]) = (form.setAll settings).set name value :=
  List.foldl_concat ..

/-- The last setting counts. -/
theorem lastSet?_concat (settings : List (String × String)) :
    lastSet? (settings ++ [(name, value)])
      = Function.update (lastSet? settings) name (some value) := by
  funext other
  rw [lastSet?, List.reverse_concat, List.lookup_cons, Function.update_apply]
  by_cases h : other = name
  · rw [if_pos h, h, beq_self_eq_true]
  · rw [if_neg h, beq_eq_false_iff_ne.2 h]
    rfl

/-- A name that is set comes to be unasked for if it is no field of the form and was not unasked
for before. -/
theorem unasked_concat (settings : List (String × String)) :
    form.unasked (settings ++ [(name, value)])
      = form.unasked settings
        ++ if name ∈ form.fieldNames ++ form.unasked settings then [] else [name] := by
  rw [unasked, List.map_append, Order.fresh_append, List.map_singleton, Order.fresh]
  rfl

/-- Setting fields leaves the rest of the form alone. -/
theorem setAll_eq (settings : List (String × String)) :
    form.setAll settings = { form with fields := (form.setAll settings).fields } := by
  induction settings using List.reverseRecOn with
  | nil => rfl
  | append_singleton settings setting ih =>
    rw [setAll_concat, set, ih]

@[simp] theorem isDataForm_setAll (settings : List (String × String)) :
    (form.setAll settings).isDataForm = form.isDataForm := by
  rw [setAll_eq]

/-- **What a sequence of settings comes to**, had the names nobody asked for been in the form. -/
theorem fields_setAll_eq_revised (settings : List (String × String)) :
    (form.setAll settings).fields
      = revised (lastSet? settings) (form.fields ++ blank (form.unasked settings)) := by
  induction settings using List.reverseRecOn with
  | nil => exact ((congrArg (revised _) (List.append_nil _)).trans revised_none).symm
  | append_singleton settings setting ih =>
    obtain ⟨name, value⟩ := setting
    have hnames : (form.fields ++ blank (form.unasked settings)).map (·.1)
        = form.fieldNames ++ form.unasked settings := by
      rw [List.map_append, names_blank]
      rfl
    rw [setAll_concat, set, lastSet?_concat, unasked_concat]
    show setField name value (form.setAll settings).fields = _
    rw [ih]
    split
    · rename_i hthere
      rw [List.append_nil]
      exact setField_revised (hnames ▸ hthere)
    · rename_i hthere
      rw [← hnames] at hthere
      have hsame : revised (Function.update (lastSet? settings) name (some value))
            (form.fields ++ blank (form.unasked settings))
          = revised (lastSet? settings) (form.fields ++ blank (form.unasked settings)) :=
        revised_congr fun n hn => Function.update_of_ne (ne_of_mem_of_not_mem hn hthere) _ _
      rw [setField_of_not_mem (by rwa [names_revised]), blank_concat, ← List.append_assoc,
        revised_concat, if_neg hthere, Function.update_self, Option.some_or, hsame]

/-- **What a sequence of settings comes to.** Every field stays in its place, the first of each
name with what the name was last set to; the names nobody asked for follow. -/
theorem fields_setAll (settings : List (String × String)) :
    (form.setAll settings).fields
      = revised (lastSet? settings) form.fields
        ++ (form.unasked settings).map fun n => (n, lastSet? settings n) := by
  rw [fields_setAll_eq_revised]
  exact revised_append_names (Order.nodup_fresh ..) fun n hn => (Order.mem_fresh.1 hn).2

/-! ## Reading a form back -/

/-- **A field that can be told in a plain query.** -/
structure Tellable (field : String × Option String) : Prop where
  /-- It is not taken for the instructions. -/
  ne_instructions : field.1 ≠ "instructions"
  /-- It is not taken for the mark that the account exists. -/
  ne_registered : field.1 ≠ "registered"
  /-- Its value is not taken for none. -/
  ne_empty : field.2 ≠ some ""

/-- **A form that can be read back**: all its fields can be told. -/
def Readable (form : Form) : Prop :=
  form.isDataForm = false → ∀ f ∈ form.fields, Tellable f

/-- The element that stands for a field in a data form. -/
def dataElement (f : String × Option String) : Element where
  name := "field"
  ns := Namespace.dataForms
  attributes := [("var", f.1)]
  content := Element.nodes (f.2.toList.map fun value => .ofText "value" Namespace.dataForms value)

/-- The element that stands for a field in a plain query. -/
def plainElement (f : String × Option String) : Element where
  name := f.1
  ns := Namespace.register
  content := valueNodes f.2

@[simp] theorem dataField?_dataElement (f : String × Option String) :
    dataField? (dataElement f) = some f := by
  obtain ⟨name, value⟩ := f
  cases value <;>
    simp [dataField?, dataElement, Element.is, Element.attr, Element.child?, Element.ofText,
      Element.text, Element.runs]

/-- A field that can be told is read as it is. -/
theorem addPlain_plainElement (h : Tellable f) :
    form.addPlain (plainElement f) = { form with fields := form.fields ++ [f] } := by
  obtain ⟨name, value⟩ := f
  have hinstructions : name ≠ "instructions" := h.ne_instructions
  have hregistered : name ≠ "registered" := h.ne_registered
  cases value with
  | none =>
    simp [addPlain, plainElement, hinstructions, hregistered, valueNodes, Element.text,
      Element.runs]
  | some value =>
    have hempty : value ≠ "" := fun hvalue => h.ne_empty (congrArg some hvalue)
    simp [addPlain, plainElement, hinstructions, hregistered, valueNodes, Element.text,
      Element.runs, hempty]

/-- Fields that can be told are read as they are. -/
theorem foldl_addPlain (h : ∀ f ∈ fields, Tellable f) :
    (fields.map plainElement).foldl addPlain form
      = { form with fields := form.fields ++ fields } := by
  induction fields generalizing form with
  | nil => exact congrArg (fun fields => { form with fields }) (List.append_nil _).symm
  | cons f rest ih =>
    obtain ⟨hf, hrest⟩ := List.forall_mem_cons.1 h
    rw [List.map_cons, List.foldl_cons, addPlain_plainElement hf, ih hrest, List.append_assoc]
    rfl

/-- What a child of a plain query says can be told, since it has just been told. -/
theorem tellable_addPlain {e : Element} (h : ∀ f ∈ form.fields, Tellable f) :
    ∀ f ∈ (form.addPlain e).fields, Tellable f := by
  unfold addPlain
  split
  · exact h
  · rename_i hinstructions
    split
    · exact h
    · rename_i hregistered
      intro f hf
      rcases List.mem_append.1 hf with hf | hf
      · exact h f hf
      · obtain rfl := List.mem_singleton.1 hf
        exact
          { ne_instructions := fun hname => hinstructions (beq_iff_eq.2 hname)
            ne_registered := fun hname => hregistered (beq_iff_eq.2 hname)
            ne_empty := by simp }

/-- **A form that was read can be read back.** -/
theorem readable_of_ofReply {reply : Element} (h : ofReply reply = .ok form) : form.Readable := by
  unfold ofReply at h
  split at h
  · cases h
  · split at h
    · cases h
      exact fun hplain => absurd hplain (by simp [ofDataForm])
    · cases h
      intro _
      have hnone : ∀ f ∈ ({} : Form).fields, Tellable f := List.forall_mem_nil _
      exact List.foldlRecOn (motive := fun form => ∀ f ∈ form.fields, Tellable f) _ addPlain hnone
        fun _ h _ _ => tellable_addPlain h

/-- A form stays readable when fields are set that can be told. -/
theorem Readable.setAll (readable : form.Readable) {settings : List (String × String)}
    (tellable : form.isDataForm = false → ∀ s ∈ settings, Tellable (s.1, some s.2)) :
    (form.setAll settings).Readable := by
  induction settings using List.reverseRecOn with
  | nil => exact readable
  | append_singleton settings setting ih =>
    intro hplain f hf
    rw [isDataForm_setAll] at hplain
    rw [setAll_concat] at hf
    rcases of_mem_setField hf with hf | rfl
    · refine ih (fun _ s hs => tellable hplain s (List.mem_append_left _ hs)) ?_ f hf
      rwa [isDataForm_setAll]
    · exact tellable hplain setting (by simp)

/-- In a submission the form stands for itself. -/
theorem ofDataForm_submission (fields : List (String × Option String)) :
    ofDataForm
        { name := "x"
          ns := Namespace.dataForms
          attributes := [("type", "submit")]
          content := Element.nodes (fields.map dataElement) }
      = { fields, isDataForm := true } := by
  have hchildren : ∀ as, Element.children
      { name := "x"
        ns := Namespace.dataForms
        attributes := as
        content := Element.nodes (fields.map dataElement) } = fields.map dataElement :=
    fun as => Element.children_mk ..
  have hinstructions : (fields.map dataElement).find? (·.is "instructions" Namespace.dataForms)
      = none := by
    simp [dataElement, Element.is]
  have hfields : (fields.map dataElement).filterMap dataField? = fields := by
    simp [List.filterMap_map]
  rw [ofDataForm, Element.child?, hchildren, hinstructions, hfields]
  rfl

/-- **A form is read back from its submission**: the fields as they are, in the same shape. -/
theorem Readable.ofReply_eq (readable : form.Readable) {carrier : Element}
    (h : carrier.child? "query" Namespace.register = some form.submission) :
    ofReply carrier = .ok { fields := form.fields, isDataForm := form.isDataForm } := by
  unfold ofReply
  rw [h]
  dsimp only
  cases hshape : form.isDataForm with
  | true =>
    have hchildren : form.submission.children =
        [{ name := "x"
           ns := Namespace.dataForms
           attributes := [("type", "submit")]
           content := Element.nodes (form.fields.map dataElement) }] := by
      rw [submission, if_pos hshape]
      rfl
    rw [Element.child?, hchildren, List.find?_cons_of_pos (by rfl)]
    exact congrArg Except.ok (ofDataForm_submission form.fields)
  | false =>
    have hchildren : form.submission.children = form.fields.map plainElement := by
      rw [submission, if_neg (by simp [hshape])]
      exact Element.children_mk ..
    have hns : ∀ e ∈ form.fields.map plainElement, e.ns = Namespace.register :=
      List.forall_mem_map.2 fun _ _ => rfl
    have hx : form.submission.child? "x" Namespace.dataForms = none := by
      rw [Element.child?, hchildren, List.find?_eq_none]
      intro e he
      rw [Element.is, hns e he]
      simp [Namespace.register, Namespace.dataForms]
    have hall : form.submission.childrenIn Namespace.register = form.fields.map plainElement := by
      rw [Element.childrenIn, hchildren, List.filter_eq_self]
      exact fun e he => beq_iff_eq.2 (hns e he)
    rw [hx, ofPlainQuery, hall, foldl_addPlain (readable hshape)]
    rfl

/-! ## Filling in a form -/

/-- **Filling in a form loses nothing.** A form was read from a reply, and fields were set one
after another, for a plain query only such as can be told there. Whoever reads a reply that
carries the submission finds a form of the same shape with the same fields. Compared with those
the server sent, each field is in its place and has the value it had, unless it is the first of a
name that was set, which has what the name was last set to; and the names the server did not ask
for follow in the order in which they were first set, each once, with what they were last set
to. -/
theorem filling_loses_nothing {reply carrier : Element} {settings : List (String × String)}
    (read : ofReply reply = .ok form)
    (tellable : form.isDataForm = false → ∀ s ∈ settings,
      s.2 ≠ "" ∧ s.1 ≠ "instructions" ∧ s.1 ≠ "registered")
    (carries : carrier.child? "query" Namespace.register
      = some (form.setAll settings).submission) :
    ofReply carrier
        = .ok { fields := (form.setAll settings).fields, isDataForm := form.isDataForm }
      ∧ (form.setAll settings).fields =
        (form.fields.mapIdx fun i f =>
          if f.1 ∈ (form.fields.take i).map (·.1) then f
          else (f.1, (lastSet? settings f.1).or f.2))
        ++ (Order.fresh form.fieldNames (settings.map (·.1))).map
          fun name => (name, lastSet? settings name) := by
  have readable : (form.setAll settings).Readable :=
    (readable_of_ofReply read).setAll fun hplain s hs =>
      have ⟨hvalue, hinstructions, hregistered⟩ := tellable hplain s hs
      { ne_instructions := hinstructions
        ne_registered := hregistered
        ne_empty := fun hempty => hvalue (Option.some_inj.1 hempty) }
  refine ⟨?_, fields_setAll settings⟩
  rw [readable.ofReply_eq carries, isDataForm_setAll]

namespace Rehearsal

/-- A reply with a plain query that asks for a nickname twice and for a password. -/
def asksTwice : Element where
  name := "iq"
  ns := Namespace.client
  content := Element.nodes
    [{ name := "query"
       ns := Namespace.register
       content := Element.nodes
        [.ofText "instructions" Namespace.register "Choose well.",
          .ofText "nick" Namespace.register "bill",
          { name := "nick", ns := Namespace.register },
          { name := "password", ns := Namespace.register }] }]

/-- The form it stands for. -/
def asked : Form where
  instructions := some "Choose well."
  fields := [("nick", some "bill"), ("nick", none), ("password", none)]

/-- The nickname is set, then an address that nobody asked for, then the nickname again. -/
def choices : List (String × String) :=
  [("nick", "bard"), ("email", "bill@shakespeare.lit"), ("nick", "juliet")]

/-- A reply with the submission. -/
def handedBack : Element where
  name := "iq"
  ns := Namespace.client
  content := Element.nodes [(asked.setAll choices).submission]

end Rehearsal

open Rehearsal in
/-- In the rehearsal the first nickname is the one that was chosen last, the second and the
password are left open, and the address comes last. -/
theorem filling_loses_nothing_rehearsal :
    ofReply asksTwice = .ok asked
      ∧ (asked.isDataForm = false → ∀ s ∈ choices,
        s.2 ≠ "" ∧ s.1 ≠ "instructions" ∧ s.1 ≠ "registered")
      ∧ handedBack.child? "query" Namespace.register = some (asked.setAll choices).submission
      ∧ ofReply handedBack = .ok
        { fields :=
            [("nick", some "juliet"), ("nick", none), ("password", none),
              ("email", some "bill@shakespeare.lit")] } := by
  have read : ofReply asksTwice = .ok asked := by rfl
  have tellable : asked.isDataForm = false → ∀ s ∈ choices,
      s.2 ≠ "" ∧ s.1 ≠ "instructions" ∧ s.1 ≠ "registered" := by decide
  have carries : handedBack.child? "query" Namespace.register
      = some (asked.setAll choices).submission := by rfl
  exact ⟨read, tellable, carries, (filling_loses_nothing read tellable carries).1⟩

end Form

end Xmpp
