import RoadNet.Assembly
import RoadNet.Attribute
import RoadNet.Command.Arguments
import RoadNet.Command.Report
import RoadNet.Data.SortedMap
import RoadNet.Decimal.Basic
import RoadNet.Decimal.Binary64
import RoadNet.Decimal.Notation
import RoadNet.Decimal.Reading
import RoadNet.Decimal.Shortest
import RoadNet.Disassembly
import RoadNet.Failure
import RoadNet.Folder
import RoadNet.Format
import RoadNet.Main
import RoadNet.MapFiles
import RoadNet.Options
import RoadNet.Osm.Reader
import RoadNet.Osm.Writer
import RoadNet.Placement
import RoadNet.Policy
import RoadNet.Primitive
import RoadNet.Projection
import RoadNet.Proofs.Accounting
import RoadNet.Proofs.Assembled
import RoadNet.Proofs.Attempts
import RoadNet.Proofs.AttributeValues
import RoadNet.Proofs.ByteOrder
import RoadNet.Proofs.Canonical
import RoadNet.Proofs.CanonicalForm
import RoadNet.Proofs.Completeness
import RoadNet.Proofs.Conservation
import RoadNet.Proofs.Disassembled
import RoadNet.Proofs.Duplicates
import RoadNet.Proofs.Escaping
import RoadNet.Proofs.FixedPoint
import RoadNet.Proofs.Flawless
import RoadNet.Proofs.FloatBits
import RoadNet.Proofs.FloatText
import RoadNet.Proofs.Formats
import RoadNet.Proofs.GreatestPart
import RoadNet.Proofs.Histories
import RoadNet.Proofs.KeyOrder
import RoadNet.Proofs.Layers
import RoadNet.Proofs.Maneuvers
import RoadNet.Proofs.Messages
import RoadNet.Proofs.NodeValues
import RoadNet.Proofs.Numerals
import RoadNet.Proofs.Pruning
import RoadNet.Proofs.ReadElements
import RoadNet.Proofs.Reassembled
import RoadNet.Proofs.Records
import RoadNet.Proofs.Relations
import RoadNet.Proofs.Reloaded
import RoadNet.Proofs.Reordering
import RoadNet.Proofs.Reporting
import RoadNet.Proofs.Rereading
import RoadNet.Proofs.RoundTrip
import RoadNet.Proofs.Rounding
import RoadNet.Proofs.Rules
import RoadNet.Proofs.SavedReferences
import RoadNet.Proofs.ScalarTexts
import RoadNet.Proofs.Selection
import RoadNet.Proofs.SignGroups
import RoadNet.Proofs.SignRules
import RoadNet.Proofs.SignTypes
import RoadNet.Proofs.Soundness
import RoadNet.Proofs.Speeds
import RoadNet.Proofs.Stages
import RoadNet.Proofs.StopLines
import RoadNet.Proofs.StoreHistories
import RoadNet.Proofs.Stores
import RoadNet.Proofs.StrictSaving
import RoadNet.Proofs.TagTexts
import RoadNet.Proofs.TwoViews
import RoadNet.Proofs.Writing
import RoadNet.Proofs.WrittenElements
import RoadNet.Proofs.XmlCharacters
import RoadNet.Proofs.XmlElements
import RoadNet.Proofs.XmlTexts
import RoadNet.Proofs.XmlTokens
import RoadNet.Proofs.YamlRecords
import RoadNet.Proofs.YamlRoundTrip
import RoadNet.Record
import RoadNet.RoadMap
import RoadNet.Role
import RoadNet.Rule.Element
import RoadNet.Rule.Registry
import RoadNet.Rule.RightOfWay
import RoadNet.Rule.TrafficLight
import RoadNet.Rule.TrafficSign
import RoadNet.Text.Blank
import RoadNet.Text.GraphemeExtend
import RoadNet.Text.Numeral
import RoadNet.Text.Quoted
import RoadNet.Text.Unprintable
import RoadNet.Vocabulary
import RoadNet.Xml.Character
import RoadNet.Xml.Document
import RoadNet.Xml.Escape
import RoadNet.Xml.Token
import RoadNet.Yaml.BlockScalar
import RoadNet.Yaml.Decoding
import RoadNet.Yaml.Document
import RoadNet.Yaml.FlowScalar
import RoadNet.Yaml.Format
import RoadNet.Yaml.Mismatch
import RoadNet.Yaml.Node
import RoadNet.Yaml.Printer
import RoadNet.Yaml.Property
import RoadNet.Yaml.Record
import RoadNet.Yaml.Scalar
import RoadNet.Yaml.Source
import RoadNet.Yaml.Token
import RoadNet.Yaml.Value
