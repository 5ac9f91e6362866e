import FieldFilter.Calendar.Date
import FieldFilter.Calendar.Day
import FieldFilter.Calendar.History
import FieldFilter.Calendar.Literal
import FieldFilter.Calendar.Yearly
import FieldFilter.Calendar.Zone
import FieldFilter.Calendar.Zone.Africa
import FieldFilter.Calendar.Zone.America
import FieldFilter.Calendar.Zone.Asia
import FieldFilter.Calendar.Zone.Europe
import FieldFilter.Calendar.Zone.Oceania
import FieldFilter.Catalog.Backend
import FieldFilter.Catalog.Error
import FieldFilter.Catalog.Field
import FieldFilter.Catalog.FieldType
import FieldFilter.Catalog.Listing
import FieldFilter.Catalog.Record
import FieldFilter.CommandLine.Arguments
import FieldFilter.CommandLine.EnvironmentFile
import FieldFilter.CommandLine.Failure
import FieldFilter.CommandLine.Option
import FieldFilter.CommandLine.Program
import FieldFilter.Compile.Clock
import FieldFilter.Compile.Operand
import FieldFilter.Compile.Plan
import FieldFilter.Compile.Render
import FieldFilter.Database.Address
import FieldFilter.Database.Connection
import FieldFilter.Database.Entity
import FieldFilter.Database.Pool
import FieldFilter.Database.Row
import FieldFilter.Database.Statement
import FieldFilter.Ending
import FieldFilter.Filter.Codes
import FieldFilter.Filter.Conjunction
import FieldFilter.Filter.Error
import FieldFilter.Filter.Expr
import FieldFilter.Filter.Operator
import FieldFilter.Filter.RegexClass
import FieldFilter.Filter.Wire
import FieldFilter.Host
import FieldFilter.Host.Path
import FieldFilter.Json.NumberText
import FieldFilter.Json.Reader
import FieldFilter.Json.Record
import FieldFilter.Json.Syntax
import FieldFilter.Json.Token
import FieldFilter.Json.Value
import FieldFilter.Json.Writer
import FieldFilter.Main
import FieldFilter.Number.Binary64
import FieldFilter.Number.Shortest
import FieldFilter.Number.Word
import FieldFilter.Proofs.BatchedLookup
import FieldFilter.Proofs.Calendar.DayStart
import FieldFilter.Proofs.Calendar.EarliestInstant
import FieldFilter.Proofs.Catalog.LookupResolution
import FieldFilter.Proofs.Catalog.ScopeOrder
import FieldFilter.Proofs.Compile.AliasNumbering
import FieldFilter.Proofs.Compile.ConditionRun
import FieldFilter.Proofs.Compile.GroupGluing
import FieldFilter.Proofs.Compile.LiteralIndependence
import FieldFilter.Proofs.Compile.ParameterAlignment
import FieldFilter.Proofs.Compile.References
import FieldFilter.Proofs.Compile.ShapeFromText
import FieldFilter.Proofs.Compile.TestForm
import FieldFilter.Proofs.Filter.Grammar
import FieldFilter.Proofs.Filter.Inversion
import FieldFilter.Proofs.Filter.MentionedCodes
import FieldFilter.Proofs.Filter.Reading
import FieldFilter.Proofs.SafeQuery
import FieldFilter.Proofs.ScopeIsolation
import FieldFilter.Proofs.Sql.BalancedText
import FieldFilter.Proofs.Sql.Characters
import FieldFilter.Proofs.Sql.ColumnRenaming
import FieldFilter.Proofs.Sql.Parentheses
import FieldFilter.Proofs.Sql.Placeholders
import FieldFilter.Proofs.Sql.PredicateShape
import FieldFilter.Proofs.Sql.Rendering
import FieldFilter.Proofs.Sql.SafePredicate
import FieldFilter.Proofs.Sql.SafeText
import FieldFilter.Proofs.Sql.Skeleton
import FieldFilter.Proofs.Sql.Truth
import FieldFilter.Service
import FieldFilter.Settings.Error
import FieldFilter.Settings.File
import FieldFilter.Settings.Layer
import FieldFilter.Settings.Load
import FieldFilter.Settings.Resolve
import FieldFilter.Sql.Column
import FieldFilter.Sql.Identifier
import FieldFilter.Sql.Like
import FieldFilter.Sql.Parameter
import FieldFilter.Sql.Predicate
import FieldFilter.Sql.Query
import FieldFilter.Sql.Test
import FieldFilter.Text.Alphanumeric
import FieldFilter.Text.Blank
import FieldFilter.Text.Canonical
import FieldFilter.Text.CodeTable
import FieldFilter.Text.Combining
import FieldFilter.Text.Decomposition
import FieldFilter.Text.Digits
import FieldFilter.Text.Direction
import FieldFilter.Text.Hangul
import FieldFilter.Text.Joining
import FieldFilter.Text.Percent
import FieldFilter.Text.Pieces
import FieldFilter.Url
import FieldFilter.Url.Bracketed
import FieldFilter.Url.HostName
import FieldFilter.Url.Label
import FieldFilter.Url.NameTable
import FieldFilter.Url.Punycode
import FieldFilter.Url.Segments
import FieldFilter.Warning
import FieldFilter.Proofs.Calendar.ZoneOrder
import FieldFilter.Proofs.Compile.CalendarEnds
import FieldFilter.Proofs.Compile.DateComparison
import FieldFilter.Proofs.Calls
import FieldFilter.Proofs.FailureOrder
import FieldFilter.Proofs.Catalog.Records
import FieldFilter.Proofs.OwnScopeJoins
import FieldFilter.Proofs.Database.StatementBinding
import FieldFilter.Proofs.Database.TableCatalog
import FieldFilter.Proofs.Json.WrittenText
import FieldFilter.Proofs.Filter.FirstMentions
import FieldFilter.Proofs.Compile.Negation
import FieldFilter.Proofs.Compile.PresentInstant
import FieldFilter.Proofs.Json.RecordParts
import FieldFilter.Proofs.Settings.FileSettings
import FieldFilter.Proofs.Settings.Layering
import FieldFilter.Proofs.Compile.AffixMatching
import FieldFilter.Proofs.Calendar.LiteralRange
import FieldFilter.Proofs.Calendar.CivilClock
import FieldFilter.Proofs.Compile.DateLiteral
import FieldFilter.Proofs.Compile.RelativeRange
import FieldFilter.Proofs.Compile.ListMembership
import FieldFilter.Proofs.Text.DecimalText
import FieldFilter.Proofs.Sql.Requalification
import FieldFilter.Proofs.Settings.RetargetedNames
import FieldFilter.Proofs.RetargetedJoins
import FieldFilter.Proofs.Number.NearestDouble
import FieldFilter.Proofs.Compile.IntegerLiterals
