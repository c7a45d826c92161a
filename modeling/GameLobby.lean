import GameLobby.Database.Session
import GameLobby.History
import GameLobby.Http.App
import GameLobby.Json.Reader
import GameLobby.Proofs.Join
import GameLobby.Proofs.Rollback
import GameLobby.Proofs.Seats
import GameLobby.Schema.Migration
import GameLobby.Script
import GameLobby.Proofs.Continuity
import GameLobby.Proofs.Stages
import GameLobby.Proofs.Chronology
import GameLobby.Proofs.Details
import GameLobby.Proofs.Trouble
import GameLobby.Proofs.Conduct
import GameLobby.Proofs.Discipline
import GameLobby.Proofs.Warrants
import GameLobby.Proofs.Accounts
import GameLobby.Proofs.Leaders
import GameLobby.Proofs.Outages
import GameLobby.Proofs.Wire
import GameLobby.Proofs.Failures
import GameLobby.Proofs.Envelope
import GameLobby.Proofs.Readers
import GameLobby.Proofs.Create
import GameLobby.Proofs.Addresses
import GameLobby.Http.Traffic
import GameLobby.Proofs.Commits
import GameLobby.Proofs.Effects
import GameLobby.Proofs.Names
import GameLobby.Proofs.Secrecy
import GameLobby.Proofs.Isolation
import GameLobby.Proofs.Removals
import GameLobby.Proofs.Sessions
import GameLobby.Proofs.Generator
import GameLobby.Proofs.Readback
import GameLobby.Proofs.Returning
import GameLobby.Proofs.Arrivals
import GameLobby.Proofs.Limits
import GameLobby.Proofs.Commuting
import GameLobby.Proofs.Spellings
import GameLobby.Proofs.Identity
import GameLobby.Proofs.Rereading
import GameLobby.Proofs.SelfKick
import GameLobby.Proofs.Calendar
import GameLobby.Proofs.Octets
import GameLobby.Proofs.Messages
import GameLobby.Proofs.Columns
import GameLobby.Proofs.Views
