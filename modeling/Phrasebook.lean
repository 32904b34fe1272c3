import Phrasebook.Text.Characters
import Phrasebook.Text.Utf8
import Phrasebook.Binary64
import Phrasebook.Table
import Phrasebook.Json.Value
import Phrasebook.Json.Reader
import Phrasebook.Json.Record
import Phrasebook.Lookup
import Phrasebook.Survey
import Phrasebook.Settings
import Phrasebook.Http.Service
import Phrasebook.Startup
import Phrasebook.Main
import Phrasebook.Proofs.Utf8
import Phrasebook.Proofs.Lookup
import Phrasebook.Proofs.Session
import Phrasebook.Proofs.Conservation
import Phrasebook.Proofs.Http.Service
import Phrasebook.Proofs.Http.Endpoint
import Phrasebook.Proofs.Http.Traffic
import Phrasebook.Proofs.Schedule
import Phrasebook.Proofs.Snapshot
import Phrasebook.Proofs.Catalog
import Phrasebook.Proofs.Folder
import Phrasebook.Proofs.Survey
import Phrasebook.Proofs.Pipeline
import Phrasebook.Proofs.Startup
import Phrasebook.Proofs.Table
import Phrasebook.Proofs.Json.Scalar
import Phrasebook.Proofs.Json.Elements
import Phrasebook.Proofs.Json.Value
import Phrasebook.Proofs.Json.Record
import Phrasebook.Proofs.Source
import Phrasebook.Proofs.Http.Envelope
import Phrasebook.Proofs.Policy
import Phrasebook.Proofs.Flatten
import Phrasebook.Proofs.Locale
import Phrasebook.Proofs.Reach
import Phrasebook.Proofs.Isolation
import Phrasebook.Proofs.Journal
import Phrasebook.Proofs.Http.Access
import Phrasebook.Proofs.ByteOrder
import Phrasebook.Proofs.Content
import Phrasebook.Proofs.Keys
import Phrasebook.Proofs.Rejection
import Phrasebook.Proofs.Wrapping
import Phrasebook.Proofs.Growth
import Phrasebook.Proofs.Unsupported
import Phrasebook.Proofs.Http.Unlocking
import Phrasebook.Proofs.Indexing
import Phrasebook.Proofs.Warnings
import Phrasebook.Proofs.Reordering
import Phrasebook.Proofs.Reassembly
import Phrasebook.Proofs.Trimming
