import SchemaSql.CommandLine.Run
import SchemaSql.Main
import SchemaSql.Migration
import SchemaSql.Proofs.Script.ByPosition
import SchemaSql.Proofs.Script.Normal
import SchemaSql.Proofs.Sql.ElementList
import SchemaSql.Proofs.Table.Verdict
import SchemaSql.Proofs.Table.ElementText
import SchemaSql.Proofs.Table.Elements
import SchemaSql.Proofs.Table.Shorthands
import SchemaSql.Proofs.Sql.Fragment
import SchemaSql.Proofs.Table.ElementFragments
import SchemaSql.Proofs.Table.Words
import SchemaSql.Proofs.Table.PrimaryKey
import SchemaSql.Proofs.Changeset.History
import SchemaSql.Proofs.Changeset.Entries
import SchemaSql.Proofs.Changeset.ReadBack
import SchemaSql.Proofs.Migration.AllOrNothing
import SchemaSql.Proofs.Table.Autoincrement
import SchemaSql.Proofs.Json.Reading
import SchemaSql.Proofs.Settings.Document
import SchemaSql.Proofs.Script.Printed
import SchemaSql.Proofs.CommandLine.Call
import SchemaSql.Proofs.CommandLine.Resplit
import SchemaSql.Proofs.Table.Strictness
import SchemaSql.Proofs.Table.Lasting
import SchemaSql.Proofs.Table.Interleaving
import SchemaSql.Proofs.Column.Modifiers
import SchemaSql.Proofs.Table.NullInKey
import SchemaSql.Proofs.Sql.StringLiteral
import SchemaSql.Proofs.Table.StringDefaults
import SchemaSql.Proofs.Table.DefaultLiterals
import SchemaSql.Proofs.Sql.TableQuery
import SchemaSql.Proofs.Script.Seams
import SchemaSql.Proofs.Sql.Backslash
import SchemaSql.Proofs.Table.ColumnLists
import SchemaSql.Proofs.Table.IndexNames
