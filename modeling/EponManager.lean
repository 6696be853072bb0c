import EponManager.Tr181.LockDiscipline
import EponManager.StatusChange
import EponManager.Controller.PhyStatus
import EponManager.Controller.InterfaceRace
import EponManager.Controller.Shutdown
import EponManager.Controller.EventLoop
import EponManager.StatsPoller.StopWait
import EponManager.StatsPoller.Lifecycle
import EponManager.StoredConfig
import EponManager.StatsClear
import EponManager.Tr181.Cleanup
import EponManager.Tr181.RowsReadable
import EponManager.Tr181.VeipNames
import EponManager.Controller.InterfaceUp
import EponManager.Tr181.StatsNames
import EponManager.Tr181.FailedRefresh
import EponManager.InvalidRecords
import EponManager.SettingRace
import EponManager.StatsPoller.PromptWait
import EponManager.GlobalContext
import EponManager.InfoCache
import EponManager.StatsLoad
import EponManager.Telemetry.AlarmTable
import EponManager.Telemetry.StatusPicture
import EponManager.Telemetry.Backend
import EponManager.LastChange
import EponManager.Tr181.BitErrorRate
import EponManager.Tr181.DataModel
import EponManager.Tr181.RowsOnce
import EponManager.HalMock.Replication
import EponManager.HalMock.RoundTrip
import EponManager.HalMock.Statistics
import EponManager.Controller.Resources
