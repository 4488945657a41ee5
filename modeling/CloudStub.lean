import CloudStub.Main
import CloudStub.Proofs.Session.Appended
import CloudStub.Proofs.Session.Balance
import CloudStub.Proofs.Session.Commute
import CloudStub.Proofs.Session.Dumping
import CloudStub.Proofs.Session.Observation
import CloudStub.Proofs.Xml.Envelope
import CloudStub.Proofs.Xml.ReadBack
import CloudStub.Proofs.Reply.Rendering
import CloudStub.Proofs.Rule.Conditions
import CloudStub.Proofs.Rule.Strictness
import CloudStub.Proofs.Request.Format
import CloudStub.Proofs.Proxy.Tunnelled
import CloudStub.Proofs.Proxy.Listener
import CloudStub.Proofs.Authority.Issuance
import CloudStub.Proofs.RuleFile.Bodies
import CloudStub.Proofs.Request.Grouping
import CloudStub.Proofs.Request.Scope
import CloudStub.Proofs.RuleFile.Headers
import CloudStub.Proofs.Request.ContentType
import CloudStub.Proofs.Session.Naming
import CloudStub.Proofs.Reply.LeadingBlanks
import CloudStub.Proofs.Reply.Returned
import CloudStub.Proofs.Xml.Indentation
