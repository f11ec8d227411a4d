import Playbill.Declaration.Format
import Playbill.Field.Extractor
import Playbill.Json.Parser
import Playbill.Log.Start
import Playbill.RelativeDay.Reader
import Playbill.Settings.Load
import Playbill.Table.Format
import Playbill.Table.Grid
import Playbill.Tabs.Basic
import Playbill.Template.PageRange
import Playbill.Proofs.Context.History
import Playbill.Proofs.Context.Lookup
import Playbill.Proofs.Context.MalformedPath
import Playbill.Proofs.DatePattern.LongestMatch
import Playbill.Proofs.DatePattern.OrdinalDays
import Playbill.Proofs.DatePattern.Restyling
import Playbill.Proofs.Field.Concatenation
import Playbill.Proofs.Field.NormalForm
import Playbill.Proofs.Field.SelectorLists
import Playbill.Proofs.Field.Shorthand
import Playbill.Proofs.RelativeDay.DateLists
import Playbill.Proofs.RelativeDay.LeapDay
import Playbill.Proofs.RelativeDay.Present
import Playbill.Proofs.RelativeDay.Unions
import Playbill.Proofs.Table.Ends
import Playbill.Proofs.Table.Size
import Playbill.Proofs.Table.Walk
import Playbill.Proofs.Tabs.Names
import Playbill.Proofs.Template.Json
import Playbill.Proofs.Template.Pages
import Playbill.Proofs.Template.RangePages
