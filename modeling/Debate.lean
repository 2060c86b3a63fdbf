import Debate.Main
import Debate.Notepad.Record
import Debate.Proofs.Document
import Debate.Proofs.Cancelling
import Debate.Proofs.Attaching
import Debate.Proofs.Replaying
import Debate.Proofs.Encoding
import Debate.Proofs.Layout
import Debate.Proofs.Effects
import Debate.Proofs.Saved
import Debate.Proofs.Outcomes
import Debate.Proofs.Regular
import Debate.Proofs.Tidy
import Debate.Proofs.Watching
import Debate.Proofs.Sound
import Debate.Proofs.Linked
import Debate.Proofs.Restarting
import Debate.Proofs.Grammar
import Debate.Proofs.Scanning
import Debate.Proofs.Attributes
import Debate.Proofs.Documented
import Debate.Proofs.Spoiling
import Debate.Proofs.Leaving
import Debate.Proofs.Records
import Debate.Proofs.Remembering
import Debate.Proofs.Recording
import Debate.Proofs.Alongside
import Debate.Proofs.Runs
import Debate.Proofs.Scribes
import Debate.Proofs.Abreast
import Debate.Proofs.OnRecord
import Debate.Proofs.Resuming
import Debate.Proofs.Excluding
import Debate.Proofs.Fitting
import Debate.Proofs.OnScreen
import Debate.Proofs.Undoing
import Debate.Proofs.Substituting
import Debate.Proofs.Skipping
import Debate.Proofs.Marking
import Debate.Proofs.Deferring
import Debate.Proofs.Blaming
import Debate.Proofs.Lasting
import Debate.Proofs.Voicing
import Debate.Proofs.Sparing
import Debate.Proofs.Trying
import Debate.Proofs.Misreading
import Debate.Proofs.Loadable
import Debate.Proofs.Refusing
import Debate.Proofs.Streams
import Debate.Proofs.Verdicts
import Debate.Proofs.Composing
import Debate.Proofs.Sharing
import Debate.Proofs.Onward
import Debate.Proofs.Shifting
import Debate.Proofs.Fenced
import Debate.Proofs.Subscribing
import Debate.Proofs.Looking
import Debate.Proofs.Answering
import Debate.Proofs.Replacing
import Debate.Proofs.Framing
import Debate.Proofs.Inert
import Debate.Proofs.Naming
