import OffchainSeal.Bytes.Base58
import OffchainSeal.Bytes.Basic
import OffchainSeal.Bytes.Hex
import OffchainSeal.Cipher.Aes256
import OffchainSeal.Cipher.ByteField
import OffchainSeal.Cipher.Cbc
import OffchainSeal.Cipher.Padding
import OffchainSeal.Command.Basic
import OffchainSeal.Command.Help
import OffchainSeal.Command.Line
import OffchainSeal.Command.Run
import OffchainSeal.Content.Basic
import OffchainSeal.Content.Document
import OffchainSeal.Content.Kind
import OffchainSeal.Content.Schema
import OffchainSeal.Curve.Field
import OffchainSeal.Curve.Point
import OffchainSeal.Decimal.Shortest
import OffchainSeal.Digest.Checksum
import OffchainSeal.Digest.Hmac
import OffchainSeal.Digest.Ripemd160
import OffchainSeal.Digest.Sha2
import OffchainSeal.Envelope
import OffchainSeal.Exit
import OffchainSeal.Failure
import OffchainSeal.Files
import OffchainSeal.Host
import OffchainSeal.Identity
import OffchainSeal.Json.Fault
import OffchainSeal.Json.Number
import OffchainSeal.Json.Scan
import OffchainSeal.Json.Value
import OffchainSeal.Key.Agreement
import OffchainSeal.Key.Checked
import OffchainSeal.Key.Fault
import OffchainSeal.Key.Private
import OffchainSeal.Key.Public
import OffchainSeal.Main
import OffchainSeal.Proofs.Bytes.Base58
import OffchainSeal.Proofs.Bytes.Hex
import OffchainSeal.Proofs.Bytes.Numeral
import OffchainSeal.Proofs.Cipher.Aes256
import OffchainSeal.Proofs.Cipher.ByteField
import OffchainSeal.Proofs.Cipher.Chaining
import OffchainSeal.Proofs.Cipher.SharedBlocks
import OffchainSeal.Proofs.Cipher.StrictPadding
import OffchainSeal.Proofs.Command.Line
import OffchainSeal.Proofs.Command.Pipe
import OffchainSeal.Proofs.Command.Reading
import OffchainSeal.Proofs.Command.Session
import OffchainSeal.Proofs.Command.Stages
import OffchainSeal.Proofs.Command.Status
import OffchainSeal.Proofs.Content.Acceptance
import OffchainSeal.Proofs.Content.Ambiguity
import OffchainSeal.Proofs.Content.Canonical
import OffchainSeal.Proofs.Content.Document
import OffchainSeal.Proofs.Content.Form
import OffchainSeal.Proofs.Content.KindOverlap
import OffchainSeal.Proofs.Content.PrefixFree
import OffchainSeal.Proofs.Content.Reading
import OffchainSeal.Proofs.Content.RowDocument
import OffchainSeal.Proofs.Content.Stream
import OffchainSeal.Proofs.Content.Tree
import OffchainSeal.Proofs.Curve.Field
import OffchainSeal.Proofs.Curve.Group
import OffchainSeal.Proofs.Curve.Order
import OffchainSeal.Proofs.Curve.Primes
import OffchainSeal.Proofs.Curve.Root
import OffchainSeal.Proofs.Curve.Triple
import OffchainSeal.Proofs.Json.Grammar
import OffchainSeal.Proofs.Json.Items
import OffchainSeal.Proofs.Json.Render
import OffchainSeal.Proofs.Json.Scan
import OffchainSeal.Proofs.Json.Unique
import OffchainSeal.Proofs.Key.Agreement
import OffchainSeal.Proofs.Key.Checked
import OffchainSeal.Proofs.Key.Private
import OffchainSeal.Proofs.Key.Public
import OffchainSeal.Proofs.Result
import OffchainSeal.Proofs.Sealing.Agreeing
import OffchainSeal.Proofs.Sealing.Envelope
import OffchainSeal.Proofs.Sealing.EnvelopeForms
import OffchainSeal.Proofs.Sealing.Framing
import OffchainSeal.Proofs.Sealing.Opening
import OffchainSeal.Proofs.Sealing.RoundTrip
import OffchainSeal.Proofs.Sealing.Symmetry
import OffchainSeal.Proofs.Sealing.Tampering
import OffchainSeal.Proofs.Sealing.VectorReuse
import OffchainSeal.Proofs.Settings.Loading
import OffchainSeal.Proofs.Settings.Override
import OffchainSeal.Proofs.Text.Blank
import OffchainSeal.Proofs.Toml.Lines
import OffchainSeal.Proofs.Toml.Text
import OffchainSeal.Proofs.Trouble
import OffchainSeal.Proofs.Utf8
import OffchainSeal.Proofs.Wire.Access
import OffchainSeal.Proofs.Wire.Appending
import OffchainSeal.Proofs.Wire.Cursor
import OffchainSeal.Proofs.Wire.Cut
import OffchainSeal.Proofs.Wire.Reader
import OffchainSeal.Proofs.Wire.Stops
import OffchainSeal.Proofs.Wire.Text
import OffchainSeal.Proofs.Wire.Varuint
import OffchainSeal.Proofs.Wire.Words
import OffchainSeal.Report.Basic
import OffchainSeal.Report.Format
import OffchainSeal.Report.Grid
import OffchainSeal.Report.Timestamp
import OffchainSeal.Sealing
import OffchainSeal.Settings.Basic
import OffchainSeal.Settings.Document
import OffchainSeal.Settings.Load
import OffchainSeal.Text.Blank
import OffchainSeal.Text.Cased
import OffchainSeal.Text.Digits
import OffchainSeal.Text.Invisible
import OffchainSeal.Text.Lowercase
import OffchainSeal.Text.Quoted
import OffchainSeal.Text.Ranges
import OffchainSeal.Text.Utf8
import OffchainSeal.Text.Width
import OffchainSeal.Text.Width.Character
import OffchainSeal.Text.Width.Context
import OffchainSeal.Text.Width.Emoji
import OffchainSeal.Text.Width.Letter
import OffchainSeal.Toml.Document
import OffchainSeal.Toml.Node
import OffchainSeal.Toml.Scalar
import OffchainSeal.Toml.Text
import OffchainSeal.Trouble
import OffchainSeal.Wire.Fault
import OffchainSeal.Wire.Reader
import OffchainSeal.Wire.Writer
