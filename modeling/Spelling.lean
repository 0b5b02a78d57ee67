import Spelling.Cache.Rehearsal
import Spelling.Gate.Rehearsal
import Spelling.Keyboard.Layout
import Spelling.Locale.Tag
import Spelling.Main
import Spelling.Proofs.Cache.Ample
import Spelling.Proofs.Cache.Contacts
import Spelling.Proofs.Cache.LeastRecent
import Spelling.Proofs.Cache.Waiting
import Spelling.Proofs.Gate.Waking
import Spelling.Proofs.Service.Accepted
import Spelling.Proofs.Service.Bounded
import Spelling.Proofs.Service.Enabled
import Spelling.Proofs.Service.Linear
import Spelling.Proofs.Service.Pool
import Spelling.Proofs.Service.Private
import Spelling.Proofs.Service.Transparent
import Spelling.Proofs.Service.Typed
import Spelling.Proofs.Settings.Composed
import Spelling.Proofs.WordList.Ranked
import Spelling.Proofs.WordList.Sources
import Spelling.Service.Rehearsal
import Spelling.Text.Words
import Spelling.Verdict
import Spelling.WordList.Source
import Spelling.Distance.Rows
import Spelling.Proofs.Distance.Rows
import Spelling.Proofs.Distance.Aligned
import Spelling.Proofs.Distance.Least
import Spelling.Proofs.WordList.Compared
import Spelling.Proofs.Recommended
import Spelling.Proofs.WordList.Flagged
import Spelling.Proofs.Cache.Looking
import Spelling.Proofs.Service.Looking
import Spelling.Proofs.Cache.Handles
import Spelling.Proofs.Settings.Commented
import Spelling.Proofs.Words
import Spelling.Proofs.Service.Capitals
import Spelling.Proofs.Distance.Edited
import Spelling.Proofs.Shown
import Spelling.Proofs.Sigma
import Spelling.Proofs.Cache.Rounds
import Spelling.Proofs.WordList.Touched
import Spelling.Proofs.Matching
import Spelling.Proofs.Settings.Readers
import Spelling.Proofs.WordList.Readers
import Spelling.Proofs.Locale.Readers
