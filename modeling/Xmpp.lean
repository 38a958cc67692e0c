import Xmpp.Client.Worker
import Xmpp.Request.Transform
import Xmpp.Proofs.Resumption.Ledger
import Xmpp.Proofs.Session.Change
import Xmpp.Proofs.Session.Steps
import Xmpp.Proofs.Client.Rest
import Xmpp.Proofs.Client.Run
import Xmpp.Proofs.Request.Books
import Xmpp.Proofs.Request.Standing
import Xmpp.Proofs.Client.Greeting
import Xmpp.Proofs.Client.Footing
import Xmpp.Proofs.Resumption.Restored
import Xmpp.Proofs.Module.Resolution
import Xmpp.Proofs.Delivery.Story
import Xmpp.Proofs.Delivery.Turns
import Xmpp.Proofs.Delivery.Lives
import Xmpp.Proofs.Delivery.Coherence
import Xmpp.Proofs.Resumption.Answers
import Xmpp.Proofs.Client.Asking
import Xmpp.Proofs.Request.Program
import Xmpp.Proofs.Client.Chronicle
import Xmpp.Proofs.Session.Housing
import Xmpp.Proofs.Client.Loss
import Xmpp.Proofs.Session.Exchanges
import Xmpp.Proofs.Client.Logins
import Xmpp.Proofs.Client.Stock
import Xmpp.Proofs.Client.Replies
import Xmpp.Proofs.Client.Resuming
import Xmpp.Proofs.Client.Forgery
import Xmpp.Proofs.Client.Precedence
import Xmpp.Proofs.Client.Annals
import Xmpp.Proofs.Client.Addresses
import Xmpp.Proofs.Client.Roster
import Xmpp.Proofs.Client.Features
import Xmpp.Proofs.Session.Tally
import Xmpp.Proofs.Client.Counting
import Xmpp.Proofs.Client.Service
import Xmpp.Proofs.Client.Parting
import Xmpp.Proofs.Client.Hearing
import Xmpp.Proofs.Request.Refusals
import Xmpp.Proofs.Request.Deadlines
import Xmpp.Proofs.Module.Mishaps
import Xmpp.Proofs.Client.Entrance
import Xmpp.Proofs.Xml.Descent
import Xmpp.Proofs.Registration.Submission
import Xmpp.Proofs.Client.Bouncing
