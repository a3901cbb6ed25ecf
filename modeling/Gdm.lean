import Gdm.Library.EventMachine
import Gdm.Library.History
import Gdm.Library.Monitor
import Gdm.Library.Ledger
import Gdm.Library.ShellWords
import Gdm.Worker.Sequence
import Gdm.Worker.Balance
import Gdm.Worker.Gating
import Gdm.Worker.Replies
import Gdm.Session.Table
import Gdm.Session.Calls
import Gdm.Session.Beginnings
import Gdm.Session.Queries
import Gdm.Session.Passwordless
import Gdm.Session.Ends
import Gdm.Session.Chain
import Gdm.Session.Names
import Gdm.Manager.Listing
import Gdm.Manager.Admission
import Gdm.Manager.Autologin
import Gdm.Choice.Program
import Gdm.Choice.Failure
import Gdm.Choice.Agreement
import Gdm.Choice.Restored
import Gdm.Display.Purges
import Gdm.Display.Beginnings
import Gdm.Display.Seats
import Gdm.Display.Failures
import Gdm.Display.Waiting
import Gdm.Users.Representation
import Gdm.Factory.Creations
import Gdm.Factory.SuspendInhibitor
import Gdm.Manager.Transients
import Gdm.Worker.Reauthentication
import Gdm.Manager.RecordBalance
import Gdm.Worker.OwnSettings
import Gdm.Users.Exhaustion
import Gdm.Users.Enumeration
import Gdm.Common.ReadBytes
import Gdm.Common.EnvFile
import Gdm.Worker.ExtensionTypes
import Gdm.Client.Completion
import Gdm.Client.SessionAgreement
import Gdm.Config.Reset
import Gdm.PamGdm.Authenticate
import Gdm.Session.LangConfig
import Gdm.Worker.Execute
import Gdm.Wrapper.SpawnSession
import Gdm.Manager.TimedLogin
import Gdm.Worker.Responses
import Gdm.Client.SessionOrder
import Gdm.Client.Duplicates
import Gdm.Common.CopyDir
import Gdm.Users.Cursor
import Gdm.Config.ListFiles
import Gdm.Config.ListBytes
import Gdm.Common.SettingsLayers
import Gdm.Worker.RotateLogs
import Gdm.Common.WaitOnPid
import Gdm.Worker.ConvertToUtf8
import Gdm.Dialogue.Agreement
import Gdm.Wrapper.Reports
import Gdm.Wrapper.Supplies
import Gdm.Users.Occupancy
import Gdm.Users.Terminations
import Gdm.Jobs.Endings
