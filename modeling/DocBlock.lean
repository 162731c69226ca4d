import DocBlock.Main
import DocBlock.World
import DocBlock.Proofs.Openings
import DocBlock.Proofs.Renumber
import DocBlock.Proofs.Append
import DocBlock.Proofs.Outside
import DocBlock.Proofs.TagLines
import DocBlock.Proofs.Wrapping
import DocBlock.Proofs.Written
import DocBlock.Proofs.StrayClosers
import DocBlock.Proofs.Dropped
import DocBlock.Proofs.Delivery
import DocBlock.Proofs.Refinement
import DocBlock.Proofs.ErasedMarkers
import DocBlock.Proofs.Prose
import DocBlock.Proofs.Samples
import DocBlock.Proofs.Fences
import DocBlock.Proofs.Returns
import DocBlock.Proofs.Forms
import DocBlock.Proofs.Placeholders
import DocBlock.Proofs.Settling
import DocBlock.Proofs.Threshold
import DocBlock.Proofs.Beside
import DocBlock.Proofs.ScanState
import DocBlock.Proofs.Classes
import DocBlock.Proofs.Wording
import DocBlock.Proofs.ErrorOutput
