import ScanAdapter.Service
import ScanAdapter.Settings.Basic
import ScanAdapter.Connection.Basic

/-!
# Setting the service up

From settings to a service: the logger is set up first, then a connection is made unless there is one
already, then the store and the service are put together.

| here | there |
| --- | --- |
| `Settings.store` | `RedisJobStore.from_settings` |
| `Settings.setUp` | `create_scan_service` with a client |
| `Settings.setUpConnected` | `create_scan_service` without one |
-/
namespace ScanAdapter

/-- Why a service cannot be set up. -/
inductive SetUpFault
  | unknownLevel (message : String)
  | badUrl (fault : UrlFault)
  deriving DecidableEq, Repr

/-- What sort of fault it is. -/
def SetUpFault.className : SetUpFault → String
  | unknownLevel _ => "ValueError"
  | badUrl fault => fault.className

def SetUpFault.message : SetUpFault → String
  | unknownLevel message => message
  | badUrl fault => fault.message

namespace Settings

def store (s : Settings) : JobStore where
  storeNamespace := s.storeNamespace
  ttl := .span s.scanJobTtl
  operationTimeout := s.operationTimeout.map .float
  maxUpdateRetries := s.maxUpdateRetries

def service (s : Settings) : Service := ⟨s.store, s.scanner⟩

def readyLine (s : Settings) : LogLine :=
  ⟨.info, .setUp, s!"Scanner adapter ready. namespace={s.storeNamespace} ttl={s.scanJobTtl.text}"⟩

/-- Set a service up that is given its connection: the logger after it, and the line that is logged, if the
logger shows it. -/
def setUp (s : Settings) (logger : Logger) : Logger × Except SetUpFault (List LogLine) :=
  match logger.configure s.logLevel with
  | (logger, some message) => (logger, .error (.unknownLevel message))
  | (logger, none) => (logger, .ok ([s.readyLine].filter logger.shows))

/-- Set a service up and make its connection. -/
def setUpConnected (s : Settings) (logger : Logger) :
    Logger × Except SetUpFault (Connection × List LogLine) :=
  match s.setUp logger with
  | (logger, .error fault) => (logger, .error fault)
  | (logger, .ok lines) =>
    match Connection.ofUrl s.redisUrl with
    | .error fault => (logger, .error (.badUrl fault))
    | .ok connection => (logger, .ok (connection, lines))

end Settings

end ScanAdapter
