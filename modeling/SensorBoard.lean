import SensorBoard.Board
import SensorBoard.Card.Basic
import SensorBoard.Card.Key
import SensorBoard.Decimal.Reader
import SensorBoard.Decimal.Shortest
import SensorBoard.Decimal.Style
import SensorBoard.Decimal.Word
import SensorBoard.Fault
import SensorBoard.Files
import SensorBoard.Grid.Basic
import SensorBoard.Grid.Placement
import SensorBoard.Json.Basic
import SensorBoard.Json.Printer
import SensorBoard.Json.Reader
import SensorBoard.Keyed
import SensorBoard.Lookup.Address
import SensorBoard.Lookup.Basic
import SensorBoard.Lookup.Gateway
import SensorBoard.Lookup.Inquiry
import SensorBoard.Lookup.Remote
import SensorBoard.Page.Block
import SensorBoard.Page.Document
import SensorBoard.Page.Entity
import SensorBoard.Page.Markup
import SensorBoard.Proofs.Inquiry
import SensorBoard.Sensor.History
import SensorBoard.Sensor.Id
import SensorBoard.Sensor.Quantity
import SensorBoard.Sensor.Reading
import SensorBoard.Sensor.Record
import SensorBoard.Sensor.Rule
import SensorBoard.Service.Basic
import SensorBoard.Service.Handler
import SensorBoard.Service.MediaType
import SensorBoard.Service.Message
import SensorBoard.Service.Route
import SensorBoard.Service.Toggle
import SensorBoard.Settings
import SensorBoard.Survey
import SensorBoard.Text.Blank
import SensorBoard.Text.Combining
import SensorBoard.Text.Numeral
import SensorBoard.Text.Percent
import SensorBoard.Text.Quoted
import SensorBoard.Text.Split
import SensorBoard.Text.Unassigned
import SensorBoard.Toml.Basic
import SensorBoard.Toml.Reader
import SensorBoard.Toml.Scalar
import SensorBoard.Toml.Table
import SensorBoard.Proofs.Survey.Success
import SensorBoard.Proofs.Board.Step
import SensorBoard.Proofs.Board.Panel
import SensorBoard.Proofs.Board.Request
import SensorBoard.Proofs.Board.Stale
import SensorBoard.Proofs.Board.Renewal
import SensorBoard.Proofs.Board.Layout
import SensorBoard.Proofs.Board.Memory
import SensorBoard.Proofs.Grid.Row
import SensorBoard.Proofs.Keyed
import SensorBoard.Proofs.Survey.Failure
import SensorBoard.Proofs.Survey.Answers
import SensorBoard.Proofs.Service.Run
import SensorBoard.Proofs.Service.Answer
import SensorBoard.Proofs.Service.Traffic
import SensorBoard.Proofs.Page.Entity
import SensorBoard.Proofs.Page.Marks
import SensorBoard.Proofs.Page.Form
import SensorBoard.Proofs.Service.Recovery
import SensorBoard.Proofs.Board.Identity
import SensorBoard.Proofs.Board.Lamp
import SensorBoard.Proofs.Service.Click
import SensorBoard.Proofs.Service.Refusal
import SensorBoard.Proofs.Text.Percent
import SensorBoard.Proofs.Lookup.Path
import SensorBoard.Proofs.Sensor.Id
import SensorBoard.Proofs.Board.Resource
import SensorBoard.Proofs.Page.Tag
import SensorBoard.Proofs.Page.Grid
import SensorBoard.Proofs.Text.Numeral
import SensorBoard.Proofs.Text.Blank
import SensorBoard.Proofs.Text.Utf8
import SensorBoard.Proofs.Decimal.Reader
import SensorBoard.Proofs.Decimal.Double
import SensorBoard.Proofs.Decimal.Shortest
import SensorBoard.Proofs.Except
import SensorBoard.Proofs.Json.Order
import SensorBoard.Proofs.Json.Told
import SensorBoard.Proofs.Sensor.History
import SensorBoard.Proofs.Sensor.Rule
import SensorBoard.Proofs.Lookup.Address
import SensorBoard.Proofs.Lookup.Request
