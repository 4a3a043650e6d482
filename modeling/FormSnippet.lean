import FormSnippet.Main
import FormSnippet.Proofs.Builder.Telling
import FormSnippet.Proofs.CommandLine.Print
import FormSnippet.Proofs.CommandLine.Request
import FormSnippet.Proofs.Form.Kept
import FormSnippet.Proofs.Form.Loading
import FormSnippet.Proofs.Form.Shape
import FormSnippet.Proofs.Form.Written
import FormSnippet.Proofs.Json.Sound
import FormSnippet.Proofs.Network.Delivery
import FormSnippet.Proofs.Network.Derived
import FormSnippet.Proofs.Network.Discipline
import FormSnippet.Proofs.Network.Moment
import FormSnippet.Proofs.Network.Roster
import FormSnippet.Proofs.Network.Severed
import FormSnippet.Proofs.Network.Subscription
import FormSnippet.Proofs.Session.Click
import FormSnippet.Proofs.Session.DoubleClick
import FormSnippet.Proofs.Session.Edit
import FormSnippet.Proofs.Session.Excursion
import FormSnippet.Proofs.Session.Follow
import FormSnippet.Proofs.Session.Keys
import FormSnippet.Proofs.Session.Redraw
import FormSnippet.Proofs.Session.Shown
import FormSnippet.Proofs.Session.Visit
import FormSnippet.Proofs.Session.Window
import FormSnippet.Proofs.Snippet.Delimiter
import FormSnippet.Proofs.Snippet.Layout
import FormSnippet.Proofs.Snippet.Meaning
import FormSnippet.Proofs.Snippet.Summary
import FormSnippet.Session.Terminal
