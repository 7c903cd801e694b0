import SqlEngine.Database
import SqlEngine.Main
import SqlEngine.Proofs.ActionRuns
import SqlEngine.Proofs.IndexContents
import SqlEngine.Proofs.Checks
import SqlEngine.Proofs.RowStore
import SqlEngine.Proofs.FieldRecords
import SqlEngine.Proofs.TableRecords
import SqlEngine.Proofs.TableChanges
import SqlEngine.Proofs.TableTransactions
import SqlEngine.Proofs.CatalogCalls
import SqlEngine.Proofs.StorageInvariant
import SqlEngine.Proofs.RowMap
import SqlEngine.Proofs.RowMapRefinement
import SqlEngine.Proofs.TableFrames
import SqlEngine.Proofs.DatabaseCalls
import SqlEngine.Proofs.IndexedAnswers
import SqlEngine.Proofs.Atomicity
import SqlEngine.Proofs.LengthLimits
import SqlEngine.Proofs.StatementLexemes
import SqlEngine.Proofs.ParserReads
import SqlEngine.Proofs.ParsedStatements
import SqlEngine.Proofs.LexemeSpellings
import SqlEngine.Proofs.TokenSplits
import SqlEngine.Proofs.StatementTexts
import SqlEngine.Proofs.Relation
import SqlEngine.Proofs.RelationAnswers
import SqlEngine.Proofs.RelationChanges
import SqlEngine.Proofs.HistoryIndependence
import SqlEngine.Proofs.Guarded
import SqlEngine.Proofs.StatementFaults
import SqlEngine.Proofs.LengthEnforcement
import SqlEngine.Proofs.GuardedStatements
import SqlEngine.Proofs.StatementBounds
import SqlEngine.Proofs.Conditions
import SqlEngine.Proofs.QueryPipeline
import SqlEngine.Proofs.PredicateResolution
import SqlEngine.Proofs.UpdateEffects
import SqlEngine.Proofs.Bindings
import SqlEngine.Proofs.DeleteEffects
import SqlEngine.Proofs.InsertEffects
import SqlEngine.Proofs.SlotHistory
import SqlEngine.Proofs.LexerResumption
import SqlEngine.Proofs.ParserRuns
import SqlEngine.Proofs.GrammarRuns
import SqlEngine.Proofs.ScriptCalls
import SqlEngine.Proofs.ParseErrors
import SqlEngine.Proofs.IndexPairs
import SqlEngine.Proofs.ColumnLists
import SqlEngine.Proofs.JsonReading
import SqlEngine.Proofs.ResultViews
import SqlEngine.Proofs.IntegerTexts
import SqlEngine.Proofs.LiteralPlaces
import SqlEngine.Proofs.LiteralTexts
