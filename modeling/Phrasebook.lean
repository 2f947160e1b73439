import Phrasebook.Files.Tree
import Phrasebook.LogLevel
import Phrasebook.Main
import Phrasebook.Proofs.Placeholder.History
import Phrasebook.Proofs.Placeholder.Mentions
import Phrasebook.Proofs.Number.RoundTrip
import Phrasebook.Proofs.Number.Scaling
import Phrasebook.Proofs.Number.Scientific
import Phrasebook.Proofs.Locale.Stability
import Phrasebook.Proofs.Locator.Lookup
import Phrasebook.Proofs.Locale.Levels
import Phrasebook.Proofs.Calendar.Universal
import Phrasebook.Proofs.Format.Refusal
import Phrasebook.Proofs.Script.Conversion
import Phrasebook.Proofs.Script.Steps
import Phrasebook.Proofs.Script.Reading
import Phrasebook.Proofs.Script.Undeclared
import Phrasebook.Proofs.CommandLine.Agreement
import Phrasebook.Proofs.Model.History
import Phrasebook.Proofs.Number.Symmetry
import Phrasebook.Proofs.Number.Literals
import Phrasebook.Proofs.Calendar.Composition
import Phrasebook.Proofs.Placeholder.Body
import Phrasebook.Proofs.Path.Composition
import Phrasebook.Proofs.Locale.Spelling
import Phrasebook.Proofs.Path.EmptyName
import Phrasebook.Proofs.Culture.Chain
import Phrasebook.Proofs.Locale.Characters
import Phrasebook.Proofs.Locator.Folder
import Phrasebook.Proofs.Number.Grouped
import Phrasebook.Proofs.Culture.Sample
import Phrasebook.Proofs.Checked.Value
