import LinkedDocs.Calendar.DateTime
import LinkedDocs.Calendar.Printer
import LinkedDocs.Calendar.Reader
import LinkedDocs.Command.Arguments
import LinkedDocs.Command.Run
import LinkedDocs.Config
import LinkedDocs.Csv.Printer
import LinkedDocs.Csv.Reader
import LinkedDocs.Dataset.Files
import LinkedDocs.Dataset.Reader
import LinkedDocs.Dataset.Row
import LinkedDocs.Dataset.Writer
import LinkedDocs.Evaluation.Options
import LinkedDocs.Evaluation.Result
import LinkedDocs.Evaluation.Rules
import LinkedDocs.Evaluation.Run
import LinkedDocs.Evaluation.Violation
import LinkedDocs.FileTree
import LinkedDocs.Generation.Options
import LinkedDocs.Generation.Report
import LinkedDocs.Generation.Run
import LinkedDocs.Generator
import LinkedDocs.Json.Printer
import LinkedDocs.Json.Reader
import LinkedDocs.Lexicon
import LinkedDocs.Log
import LinkedDocs.Main
import LinkedDocs.Number.Binary64
import LinkedDocs.Path
import LinkedDocs.Prose
import LinkedDocs.Random.ChaCha
import LinkedDocs.Random.Draw
import LinkedDocs.Random.Source
import LinkedDocs.Record
import LinkedDocs.Record.Encode
import LinkedDocs.Record.Id
import LinkedDocs.Record.Kind
import LinkedDocs.Sample
import LinkedDocs.Session
import LinkedDocs.Text.Blank
import LinkedDocs.Text.Decimal
import LinkedDocs.Text.Digit
import LinkedDocs.Text.Quoted
import LinkedDocs.Text.Unprintable
import LinkedDocs.Toml.Reader
import LinkedDocs.Toml.Scalar
import LinkedDocs.Toml.Table
import LinkedDocs.Toml.Text
import LinkedDocs.Value
import LinkedDocs.Value.Decode
import LinkedDocs.Vocabulary
import LinkedDocs.Vocabulary.Company
import LinkedDocs.Vocabulary.Lorem
import LinkedDocs.Proofs.Numerals
import LinkedDocs.Proofs.Ids
import LinkedDocs.Proofs.Lockstep
import LinkedDocs.Proofs.Conservation
import LinkedDocs.Proofs.SoundRows
import LinkedDocs.Proofs.Tally
import LinkedDocs.Proofs.Accounting
import LinkedDocs.Proofs.Join
import LinkedDocs.Proofs.Grouping
import LinkedDocs.Proofs.Reports
import LinkedDocs.Proofs.Checks
import LinkedDocs.Proofs.Clean
import LinkedDocs.Proofs.Canonical
import LinkedDocs.Proofs.Misnumbered
import LinkedDocs.Proofs.CsvRoundTrip
import LinkedDocs.Proofs.JsonLayout
import LinkedDocs.Proofs.JsonRoundTrip
import LinkedDocs.Proofs.NestedRoundTrip
import LinkedDocs.Proofs.NestedValue
import LinkedDocs.Proofs.Dates
import LinkedDocs.Proofs.Draws
import LinkedDocs.Proofs.Rounds
import LinkedDocs.Proofs.FreeText
import LinkedDocs.Proofs.GreedyText
import LinkedDocs.Proofs.Sentences
import LinkedDocs.Proofs.TakenWords
import LinkedDocs.Proofs.Elapsed
import LinkedDocs.Proofs.Faults
import LinkedDocs.Proofs.DateRange
import LinkedDocs.Proofs.ProducibleText
import LinkedDocs.Proofs.Documents
import LinkedDocs.Proofs.Places
import LinkedDocs.Proofs.Stored
import LinkedDocs.Proofs.Frame
import LinkedDocs.Proofs.ReadBack
import LinkedDocs.Proofs.Drawn
import LinkedDocs.Proofs.Runs
import LinkedDocs.Proofs.OwnFiles
import LinkedDocs.Proofs.Generated
import LinkedDocs.Proofs.Prefix
import LinkedDocs.Proofs.Replay
import LinkedDocs.Proofs.Malformed
import LinkedDocs.Proofs.HeaderFlag
import LinkedDocs.Proofs.RowGroups
import LinkedDocs.Proofs.KeyColumns
import LinkedDocs.Proofs.Presentation
import LinkedDocs.Proofs.EffectiveOptions
import LinkedDocs.Proofs.Verification
import LinkedDocs.Proofs.Batches
import LinkedDocs.Proofs.FieldShapes
import LinkedDocs.Proofs.RepeatedIds
import LinkedDocs.Proofs.BatchSizes
import LinkedDocs.Proofs.FieldOrder
import LinkedDocs.Proofs.JsonForms
