import MailPrefs.Main
import MailPrefs.Observable.Hub
import MailPrefs.Proofs.ViewModel.Step
import MailPrefs.Session.Interleaving
import MailPrefs.Proofs.Session.Reaction
import MailPrefs.Proofs.Session.Run
import MailPrefs.Proofs.Session.Agenda
import MailPrefs.Proofs.Subscribed.History
import MailPrefs.Proofs.Subscribed.Run
import MailPrefs.Proofs.Preferences
import MailPrefs.Proofs.Subscribed.Consistency
import MailPrefs.Proofs.Status.Writes
import MailPrefs.Proofs.View.Convergence
import MailPrefs.Proofs.Session.Requests
import MailPrefs.Proofs.Session.Settling
import MailPrefs.Proofs.Session.Clock
import MailPrefs.Proofs.Status.Timeline
import MailPrefs.Proofs.Session.Deliveries
import MailPrefs.Proofs.Session.Awaiting
import MailPrefs.Proofs.View.Bare
import MailPrefs.Proofs.View.Transparency
import MailPrefs.Proofs.Json.Strings
import MailPrefs.Proofs.Json.ReadBack
import MailPrefs.Proofs.Json.Grammar
import MailPrefs.Proofs.Json.Tokens
import MailPrefs.Proofs.Subscribed.Loads
import MailPrefs.Proofs.CommandLine.Run
import MailPrefs.Proofs.CommandLine.Arguments
import MailPrefs.Proofs.Subscribed.ReadBack
import MailPrefs.Proofs.View.Unmounting
import MailPrefs.Proofs.Session.Waiting
import MailPrefs.Proofs.Session.Halves
import MailPrefs.Proofs.Session.Lockstep
import MailPrefs.Proofs.Session.Noninterference
import MailPrefs.Proofs.Session.Answers
import MailPrefs.Proofs.Text.Basic
import MailPrefs.Proofs.Url.Folders
import MailPrefs.Proofs.Url.Reading
import MailPrefs.Proofs.Client.Endpoint
import MailPrefs.Proofs.Json.Parsing
import MailPrefs.Proofs.Decoding
import MailPrefs.Proofs.Client.Classification
import MailPrefs.Proofs.Json.Truth
import MailPrefs.Proofs.Session.Outcomes
import MailPrefs.Proofs.Template.Pieces
import MailPrefs.Proofs.Preferences.Text
import MailPrefs.Proofs.Observable.Answers
import MailPrefs.Proofs.Subscribed.Alterations
import MailPrefs.Proofs.View.Overlooking
import MailPrefs.Proofs.View.Bursts
import MailPrefs.Proofs.Catalog
import MailPrefs.Proofs.CommandLine.CommaList
import MailPrefs.Proofs.ApiError
import MailPrefs.Proofs.Status.Uncleared
import MailPrefs.Proofs.CommandLine.Printed
import MailPrefs.Template.Pass
import MailPrefs.Proofs.Text.Ascii
import MailPrefs.Proofs.Template.Escaping
import MailPrefs.Proofs.Template.Pass
import MailPrefs.Environment
import MailPrefs.Proofs.CommandLine.Layers
