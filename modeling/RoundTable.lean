import RoundTable.Automaton.Assembly
import RoundTable.Automaton.Batch
import RoundTable.Automaton.Deeds
import RoundTable.Automaton.Draft
import RoundTable.Automaton.Edge
import RoundTable.Automaton.Guard
import RoundTable.Automaton.Handles
import RoundTable.Automaton.History
import RoundTable.Automaton.Lamp
import RoundTable.Automaton.Machine
import RoundTable.Automaton.Published
import RoundTable.Automaton.Registration
import RoundTable.Automaton.Selector
import RoundTable.Automaton.Send
import RoundTable.Automaton.Store
import RoundTable.Catalogue
import RoundTable.Config
import RoundTable.Deck
import RoundTable.Event
import RoundTable.Failure
import RoundTable.FrontCards
import RoundTable.GameState
import RoundTable.Interaction
import RoundTable.Json.Basic
import RoundTable.Json.Canonical
import RoundTable.Json.Quoted
import RoundTable.Json.Reader
import RoundTable.Json.Shape
import RoundTable.Json.Writer
import RoundTable.Party
import RoundTable.Player
import RoundTable.Program.Basic
import RoundTable.Program.Chain
import RoundTable.Program.Plan
import RoundTable.Program.Turn
import RoundTable.Proofs.Automaton.Batches
import RoundTable.Proofs.Automaton.Courses
import RoundTable.Proofs.Automaton.Fates
import RoundTable.Proofs.Automaton.GuardOrder
import RoundTable.Proofs.Automaton.Launches
import RoundTable.Proofs.Automaton.LoopOrder
import RoundTable.Proofs.Automaton.MissingParts
import RoundTable.Proofs.Automaton.Outlook
import RoundTable.Proofs.Automaton.Prefixes
import RoundTable.Proofs.Automaton.Refinement
import RoundTable.Proofs.Automaton.Registrations
import RoundTable.Proofs.Automaton.Rollback
import RoundTable.Proofs.Automaton.Sends
import RoundTable.Proofs.Automaton.SingleWriter
import RoundTable.Proofs.Automaton.StoreAtRest
import RoundTable.Proofs.Automaton.Trails
import RoundTable.Proofs.Config.Environment
import RoundTable.Proofs.Rules.AllCards
import RoundTable.Proofs.Rules.Allows
import RoundTable.Proofs.Rules.Dealing
import RoundTable.Proofs.Rules.Effects
import RoundTable.Proofs.Rules.FrontRow
import RoundTable.Proofs.Rules.Hands
import RoundTable.Proofs.Rules.Seats
import RoundTable.Proofs.Rules.Spending
import RoundTable.Proofs.Session.AnsweredOnce
import RoundTable.Proofs.Session.Answers
import RoundTable.Proofs.Session.Anywhere
import RoundTable.Proofs.Session.Arrivals
import RoundTable.Proofs.Session.AtOnce
import RoundTable.Proofs.Session.Attribution
import RoundTable.Proofs.Session.Bystanders
import RoundTable.Proofs.Session.CallStages
import RoundTable.Proofs.Session.Chronicles
import RoundTable.Proofs.Session.FirstChoice
import RoundTable.Proofs.Session.Followed
import RoundTable.Proofs.Session.Histories
import RoundTable.Proofs.Session.Honest
import RoundTable.Proofs.Session.Hosted
import RoundTable.Proofs.Session.Ledger
import RoundTable.Proofs.Session.Losses
import RoundTable.Proofs.Session.Moves
import RoundTable.Proofs.Session.NoCallLost
import RoundTable.Proofs.Session.Occurrences
import RoundTable.Proofs.Session.OwnCards
import RoundTable.Proofs.Session.OwnWaiter
import RoundTable.Proofs.Session.Parties
import RoundTable.Proofs.Session.Postures
import RoundTable.Proofs.Session.Provenance
import RoundTable.Proofs.Session.Released
import RoundTable.Proofs.Session.Rest
import RoundTable.Proofs.Session.Results
import RoundTable.Proofs.Session.Retirement
import RoundTable.Proofs.Session.Scenes
import RoundTable.Proofs.Session.ServerSteps
import RoundTable.Proofs.Session.Stories
import RoundTable.Proofs.Session.Stranded
import RoundTable.Proofs.Session.Tallied
import RoundTable.Proofs.Session.Tokens
import RoundTable.Proofs.Session.Turns
import RoundTable.Proofs.Session.TypedReplies
import RoundTable.Proofs.Session.Undisturbed
import RoundTable.Proofs.Session.Views
import RoundTable.Proofs.Session.Ways
import RoundTable.Proofs.Table.Accepted
import RoundTable.Proofs.Table.AttackProtocol
import RoundTable.Proofs.Table.CardsConserved
import RoundTable.Proofs.Table.Circle
import RoundTable.Proofs.Table.Discards
import RoundTable.Proofs.Table.Draws
import RoundTable.Proofs.Table.Errands
import RoundTable.Proofs.Table.ForcedCards
import RoundTable.Proofs.Table.Health
import RoundTable.Proofs.Table.LiesAt
import RoundTable.Proofs.Table.Linearizable
import RoundTable.Proofs.Table.NoDeadlock
import RoundTable.Proofs.Table.Ownership
import RoundTable.Proofs.Table.PhaseInStep
import RoundTable.Proofs.Table.Proposals
import RoundTable.Proofs.Table.Ruled
import RoundTable.Proofs.Table.Standoff
import RoundTable.Proofs.Table.TurnOrder
import RoundTable.Proofs.Table.WayOut
import RoundTable.Proofs.Walk.Chains
import RoundTable.Proofs.Walk.Composition
import RoundTable.Proofs.Walk.Futile
import RoundTable.Proofs.Walk.Office
import RoundTable.Proofs.Walk.Routing
import RoundTable.Proofs.Walk.Settlements
import RoundTable.Proofs.Walk.StepTrees
import RoundTable.Proofs.Walk.Stumbles
import RoundTable.Proofs.Walk.TurnSteps
import RoundTable.Proofs.Wire.Identifiers
import RoundTable.Proofs.Wire.Lossless
import RoundTable.Proofs.Wire.ReadBack
import RoundTable.Proofs.Wire.Shapes
import RoundTable.Proofs.Wire.Spellings
import RoundTable.Reply
import RoundTable.Request
import RoundTable.Rules
import RoundTable.Session.Basic
import RoundTable.Session.Command
import RoundTable.Session.Conduct
import RoundTable.Session.Move
import RoundTable.Session.Routine
import RoundTable.Session.Schedule
import RoundTable.Session.Slot
import RoundTable.Session.SlotUse
import RoundTable.Table
import RoundTable.Text.Blank
import RoundTable.Text.Form
import RoundTable.Text.Glyph
import RoundTable.Text.Numeral
import RoundTable.Uuid
import RoundTable.Visit
import RoundTable.Walk.AtTable
import RoundTable.Walk.Chooser
import RoundTable.Walk.Resolver
import RoundTable.Walk.Script
import RoundTable.Wire.Game
import RoundTable.Wire.Report
import RoundTable.Wire.Session
