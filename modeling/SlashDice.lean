import SlashDice.App.Router
import SlashDice.Audit.Log
import SlashDice.Dice.Command
import SlashDice.Dice.Game
import SlashDice.Dice.RollRecord
import SlashDice.Dice.Session
import SlashDice.Dice.SharedThrows
import SlashDice.Dice.Throw
import SlashDice.Install.Registration
import SlashDice.Install.State
import SlashDice.Install.Workspace
import SlashDice.Json.Members
import SlashDice.Json.Reader
import SlashDice.Random.Lock
import SlashDice.Random.Script
import SlashDice.Random.Seeded
import SlashDice.Reply.Reading
import SlashDice.Settings.Environment
import SlashDice.Settings.Field
import SlashDice.Settings.Record
import SlashDice.Signature
import SlashDice.Text.Alphanumeric
import SlashDice.Text.Base64
import SlashDice.Text.Blank
import SlashDice.Text.CodePoints
import SlashDice.Text.Hex
import SlashDice.Text.LetterCase
import SlashDice.Text.LetterCase.Lemmas
import SlashDice.Text.Markup
import SlashDice.Text.Numeral
import SlashDice.Text.Percent
import SlashDice.Text.Pieces
import SlashDice.Text.Quoted
import SlashDice.Text.Utf8
import SlashDice.Text.Utf8.Lemmas
import SlashDice.Text.Utf8.Slice
import SlashDice.Web.Domain.Basic
import SlashDice.Web.Failure
import SlashDice.Web.Form
import SlashDice.Web.Form.Lemmas
import SlashDice.Web.Target
import SlashDice.Proofs.OrderedChecks
import SlashDice.Proofs.Text.Numeral
import SlashDice.Proofs.Text.Ascii
import SlashDice.Proofs.Text.Hex
import SlashDice.Proofs.Signature
import SlashDice.Proofs.App.UnsignedCommands
import SlashDice.Proofs.Text.Blank
import SlashDice.Proofs.Text.LetterCase
import SlashDice.Proofs.Dice.Token
import SlashDice.Proofs.Dice.Command
import SlashDice.Proofs.Dice.Outcome
import SlashDice.Proofs.Dice.Throw
import SlashDice.Proofs.Dice.Limits
import SlashDice.Proofs.Dice.Game
import SlashDice.Proofs.Random.Script
import SlashDice.Proofs.Dice.Session
import SlashDice.Proofs.Settings
import SlashDice.Proofs.Audit.Columns
import SlashDice.Proofs.Dice.BareCommand
import SlashDice.Proofs.App.Requests
import SlashDice.Proofs.App.AuditTrail
import SlashDice.Proofs.Text.Pieces
import SlashDice.Proofs.Web.Form
import SlashDice.Proofs.Web.Address
import SlashDice.Proofs.Web.Target
import SlashDice.Proofs.Install.State
import SlashDice.Proofs.Install.Registration
import SlashDice.Proofs.Install.WebApi
import SlashDice.Proofs.App.Installation
import SlashDice.Proofs.App.Callback
import SlashDice.Proofs.Dice.Expression
import SlashDice.Proofs.Dice.CommandText
import SlashDice.Proofs.App.Keys
import SlashDice.Proofs.App.SubmittedForms
import SlashDice.Proofs.Dice.SharedThrows
import SlashDice.Proofs.Install.StateCheck
import SlashDice.Proofs.Reply.Shape
import SlashDice.Proofs.Reply.Reading
import SlashDice.Proofs.SignedMessage
import SlashDice.Proofs.Dice.WordGrammar
import SlashDice.Proofs.Text.Markup
import SlashDice.Proofs.Install.Workspace
import SlashDice.Proofs.Text.Recasing
import SlashDice.Proofs.Dice.CommandSpelling
import SlashDice.Proofs.App.BodyLimit
import SlashDice.Proofs.Entries
import SlashDice.Proofs.Random.Lock
import SlashDice.Proofs.Install.Scopes
import SlashDice.Proofs.Settings.Record
import SlashDice.Proofs.Settings.DotEnv
import SlashDice.Proofs.Settings.Variables
import SlashDice.Proofs.Settings.Resolution
import SlashDice.Proofs.Text.Slice
import SlashDice.Proofs.Dice.FirstWord
