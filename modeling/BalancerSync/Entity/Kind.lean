/-!
# Supported option values

Entities carry the names they were given. These are the ones that the backend can express.
-/

namespace BalancerSync

/-- The value whose name this is, among the given ones. -/
def named? {α : Type} (all : List α) (name : α → String) (s : String) : Option α :=
  all.find? (name · == s)

inductive Protocol
  | tcp | udp | sctp
  deriving DecidableEq, Repr

namespace Protocol

def all : List Protocol := [tcp, udp, sctp]

def name : Protocol → String
  | tcp => "TCP"
  | udp => "UDP"
  | sctp => "SCTP"

def ofName? : String → Option Protocol := named? all name

end Protocol

inductive Algorithm
  | roundRobin | sourceIpPort
  deriving DecidableEq, Repr

namespace Algorithm

def all : List Algorithm := [roundRobin, sourceIpPort]

def name : Algorithm → String
  | roundRobin => "ROUND_ROBIN"
  | sourceIpPort => "SOURCE_IP_PORT"

def ofName? : String → Option Algorithm := named? all name

end Algorithm

/-- How a health monitor probes a member. -/
inductive Probe
  | tcp | udpConnect | sctp
  deriving DecidableEq, Repr

namespace Probe

def all : List Probe := [tcp, udpConnect, sctp]

def name : Probe → String
  | tcp => "TCP"
  | udpConnect => "UDP-CONNECT"
  | sctp => "SCTP"

def ofName? : String → Option Probe := named? all name

end Probe

/-- What makes a client return to the same member. -/
inductive Persistence
  | sourceIp
  deriving DecidableEq, Repr

namespace Persistence

def all : List Persistence := [sourceIp]

def name : Persistence → String
  | sourceIp => "SOURCE_IP"

def ofName? : String → Option Persistence := named? all name

end Persistence

end BalancerSync
