import Retrieval.Configuration
import Retrieval.Engine
import Retrieval.Json.Reader
import Retrieval.Proofs.Hydration
import Retrieval.Proofs.PendingMapping
import Retrieval.Proofs.Reopening
import Retrieval.Proofs.Restoration
import Retrieval.Proofs.Retrying
import Retrieval.Proofs.SearchDocuments
import Retrieval.Proofs.SharedAddress
import Retrieval.Proofs.Toggles
import Retrieval.Proofs.TypeMapping
import Retrieval.Query.Inspect
import Retrieval.Transport.Canned
import Retrieval.Proofs.HitLocality
import Retrieval.Proofs.Pages
import Retrieval.Proofs.Protection
import Retrieval.Proofs.FiniteFloats
import Retrieval.Proofs.ResponseWriting
import Retrieval.Proofs.ResponseGrammar
import Retrieval.Proofs.FetchLog
import Retrieval.Proofs.BodyWrites
import Retrieval.Proofs.PartialRecords
import Retrieval.Proofs.PossibleWrites
import Retrieval.Proofs.WriteOrder
import Retrieval.Proofs.LastStrategy
