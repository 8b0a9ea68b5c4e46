import QueryDesk.Bus.Script
import QueryDesk.Clipboard
import QueryDesk.Main
import QueryDesk.Proofs.Delivery
import QueryDesk.Proofs.Cascade
import QueryDesk.Proofs.ConsoleSteps
import QueryDesk.Proofs.ConsoleHistory
import QueryDesk.Proofs.AppRun
import QueryDesk.Proofs.UpdateEvents
import QueryDesk.Proofs.Utf8RoundTrip
import QueryDesk.Proofs.JsonRoundTrip
import QueryDesk.Proofs.StoredHeight
import QueryDesk.Proofs.FileStore
import QueryDesk.Proofs.Restart
import QueryDesk.Proofs.DragGesture
import QueryDesk.Proofs.LineStore
import QueryDesk.Proofs.FlatText
import QueryDesk.Proofs.FailedQuery
import QueryDesk.Proofs.Coherence
import QueryDesk.Proofs.HandleRow
import QueryDesk.Proofs.PointerDrag
import QueryDesk.Proofs.LowerBound
import QueryDesk.Proofs.BusBudget
import QueryDesk.Proofs.BusHistory
import QueryDesk.Proofs.PanelFrame
import QueryDesk.Proofs.StoreRequests
import QueryDesk.Proofs.JsonGrammar
import QueryDesk.Proofs.SavedSettings
import QueryDesk.Proofs.LinkParts
import QueryDesk.Proofs.FormDecoding
import QueryDesk.Proofs.TokenRules
import QueryDesk.Proofs.StyledText
import QueryDesk.Proofs.HandleRange
import QueryDesk.Proofs.DragSum
import QueryDesk.Proofs.TableColumns
import QueryDesk.Proofs.ConsoleRegions
import QueryDesk.Proofs.ChartedColumn
import QueryDesk.Proofs.CursorColumn
import QueryDesk.Proofs.MouseTargets
import QueryDesk.Proofs.GridView
import QueryDesk.Proofs.HeightText
import QueryDesk.Proofs.Base64Text
import QueryDesk.Proofs.ClipboardStream
import QueryDesk.Proofs.KeywordLetters
import QueryDesk.Proofs.StrayFeeds
import QueryDesk.Proofs.Redraw
