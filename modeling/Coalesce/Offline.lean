import Coalesce.CommandLine.Run

/-! A machine without a network: what the command line has for a server where none can be reached,
with what the system says about it. -/
namespace Coalesce.Offline

open Server (Connection)

inductive Obstacle where
  | network
  | hostName
  | noSocket
  | longSocket
  | zeroInSocket

def Obstacle.message : Obstacle → String
  | .network => "Network is unreachable (os error 101)"
  | .hostName => "failed to lookup address information: Temporary failure in name resolution"
  | .noSocket => "No such file or directory (os error 2)"
  | .longSocket => "path must be shorter than SUN_LEN"
  | .zeroInSocket => "paths must not contain interior null bytes"

def longestSocket : Nat := 107

def socketObstacle (directory : String) (port : Nat) : Obstacle :=
  let path := s!"{directory}/.s.PGSQL.{port}"
  if path.toList.contains '\x00' then .zeroInSocket
  else if longestSocket < path.utf8ByteSize then .longSocket
  else .noSocket

/-- Numbers lead nowhere, and so does the one name that needs no look-up. -/
def hostObstacle (host : Host) : Obstacle :=
  match host with
  | .name text =>
    let name := text.toList
    if text.map Char.toLower = "localhost" ∨ Connection.isNumericHost name ∨
      (Host.endsInNumber name ∧ (Host.fourBytes? name).isSome) then .network
    else .hostName
  | _ => .network

def obstacle (c : Connection) : Obstacle :=
  match c.socket, c.host with
  | some directory, _ => socketObstacle directory c.port
  | none, .name text =>
    if text.toList.head? = some '/' then socketObstacle text c.port else hostObstacle c.host
  | none, host => hostObstacle host

def usualPort : Nat := 5432

def usualConnection (env : Environment) : Connection :=
  let port := (env "PGPORT").bind fun text =>
    (Connection.numeral Connection.maxPort text.toList).toOption
  ⟨.name (((env "PGHOSTADDR").or (env "PGHOST")).getD "localhost"), port.getD usualPort, none⟩

def connect (env : Environment) (address : String) : Except Error Empty :=
  .error (.database (match Connection.read (usualConnection env) address with
    | .ok connection => .unreachable (obstacle connection).message
    | .error fault => .configuration fault))

def surroundings (env : Environment) (filter : Option String) : CommandLine.Surroundings Empty :=
  ⟨env, filter, connect env⟩

end Coalesce.Offline
