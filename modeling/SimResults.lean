import SimResults.Config.Reading
import SimResults.Item
import SimResults.Proofs.ArrayColumns
import SimResults.Proofs.ArrayWords
import SimResults.Proofs.CheckedItems
import SimResults.Proofs.ColumnNames
import SimResults.Proofs.ColumnRemoval
import SimResults.Proofs.CommandLines
import SimResults.Proofs.ConfigText
import SimResults.Proofs.ExportCells
import SimResults.Proofs.ExportItems
import SimResults.Proofs.FinalColumns
import SimResults.Proofs.FirstSeen
import SimResults.Proofs.InputLists
import SimResults.Proofs.IntegerCells
import SimResults.Proofs.ItemProjection
import SimResults.Proofs.Joining
import SimResults.Proofs.KindSelection
import SimResults.Proofs.Lookups
import SimResults.Proofs.MetadataMerging
import SimResults.Proofs.MetadataOrder
import SimResults.Proofs.MetadataStreams
import SimResults.Proofs.NestedLoops
import SimResults.Proofs.Normalization
import SimResults.Proofs.NumericColumns
import SimResults.Proofs.Outcomes
import SimResults.Proofs.ParsedExports
import SimResults.Proofs.Pivoting
import SimResults.Proofs.Pruning
import SimResults.Proofs.QueryAcceptance
import SimResults.Proofs.QueryPlans
import SimResults.Proofs.QueryReports
import SimResults.Proofs.Rectangularity
import SimResults.Proofs.Reshaping
import SimResults.Proofs.ResultTables
import SimResults.Proofs.ResumedConversions
import SimResults.Proofs.RowPreservation
import SimResults.Proofs.SessionRuns
import SimResults.Proofs.WideNames
import SimResults.Proofs.WideTables
import SimResults.Proofs.WrittenRecords
import SimResults.Session.Query
import SimResults.Table.Melt
import SimResults.Tool.Program
import SimResults.Tool.Scripted
