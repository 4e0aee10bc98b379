import Parley.Disk.Tree
import Parley.Main
import Parley.Recorder
import Parley.Routine
import Parley.Proofs.Moment.Basic
import Parley.Proofs.Moment.Faithful
import Parley.Proofs.Moment.Sound
import Parley.Proofs.Quiescence
import Parley.Proofs.Checkout
import Parley.Proofs.Flat.Agreement
import Parley.Proofs.Persistence
import Parley.Proofs.Conversation.Captures
import Parley.Proofs.Endless
import Parley.Proofs.TurnTaking
import Parley.Proofs.Deferral
import Parley.Proofs.Answering
import Parley.Proofs.Cancelling
import Parley.Proofs.Ending
import Parley.Proofs.Parting
import Parley.Proofs.Ordering
import Parley.Proofs.Reading.Exchange
import Parley.Proofs.Stranding
import Parley.Proofs.Store.Refinement
import Parley.Proofs.Store.Key
import Parley.Proofs.Store.Place
import Parley.Proofs.Store.Sender
import Parley.Proofs.Store.Listing
import Parley.Proofs.Store.Effect
import Parley.Proofs.Protocol
import Parley.Proofs.Scoping
import Parley.Proofs.Template.Markup
import Parley.Proofs.Template.Address
import Parley.Proofs.Template.Again
import Parley.Proofs.Choice
import Parley.Proofs.Carousel
import Parley.Proofs.Course.Leeway
import Parley.Proofs.StepGuard
import Parley.Proofs.Course.Plain
import Parley.Proofs.Recital
import Parley.Proofs.Gathering
import Parley.Proofs.Repeating
import Parley.Proofs.Content
import Parley.Proofs.Translation.Dialog
import Parley.Proofs.Threads
import Parley.Proofs.Pairing.Answers
import Parley.Proofs.Index.Range
