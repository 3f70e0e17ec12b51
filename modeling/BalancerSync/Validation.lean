import BalancerSync.Address.Ip
import BalancerSync.Entity.Basic
import BalancerSync.Error

/-!
# Supported options

Checks of objects against what the backend can express. They look at nothing but the object.
-/

namespace BalancerSync

open Text

/-! ## Options -/

/-- A check that nothing is wrong. -/
def refuseUnless (ok : Bool) (why : Refusal) : Except DriverError Unit :=
  if ok then .ok () else .error (.unsupported why)

def validateProtocol (protocol : Field String) : Except DriverError Unit :=
  refuseUnless (protocol.asOption.any fun p ↦ (Protocol.ofName? p).isSome)
    (.protocol protocol.asOption)

def validateAlgorithm (algorithm : Field String) : Except DriverError Unit :=
  refuseUnless (algorithm.asOption.any fun a ↦ (Algorithm.ofName? a).isSome)
    (.algorithm algorithm.asOption)

/-- No persistence is fine. -/
def validatePersistence : Option SessionPersistence → Except DriverError Unit
  | none => .ok ()
  | some p => refuseUnless (Persistence.ofName? p.kind).isSome (.persistence p.kind)

def validateAllowedCidrs (cidrs : Field (List String)) : Except DriverError Unit :=
  refuseUnless cidrs.items.isEmpty .allowedCidrs

/-! ## Members -/

/-- Whether a member is to be probed elsewhere than where it serves. -/
def Member.hasMonitorOptions (m : Member) : Bool :=
  m.monitorAddress.nonEmpty.isSome || m.monitorPort.asOption.any (· != 0)

def validateMonitorOptions (m : Member) : Except DriverError Unit :=
  refuseUnless (!m.hasMonitorOptions) .memberMonitor

/-- The address in front of a slash, without blanks and brackets around the whole text. -/
def readHost? (address : String) : Option Ip :=
  Ip.read? (before '/' (bareAddress address.toList))

/-- Whether an address is of another family than all virtual addresses. Virtual addresses of both
families go with every address, and what is no address is in conflict with nothing. -/
def ipVersionDiffers (vips : List String) (address : String) : Bool :=
  match (vips.filterMap readHost?).map Ip.family with
  | [] => false
  | f :: fs => !fs.any (· != f) && (readHost? address).any (·.family != f)

/-! ## Health monitors -/

/-- The backend has to know health checks; when a monitor is created, its probe has to be known
too. -/
def validateHealthMonitor (h : HealthMonitor) (supported creating : Bool) :
    Except DriverError Unit :=
  if !supported then .error (.unsupported .healthChecks)
  else if !creating then .ok ()
  else if !h.kind.isSet then .error (.unsupported .probeMissing)
  else
    refuseUnless (h.kind.asOption.any fun k ↦ (Probe.ofName? k).isSome) (.probe h.kind.asOption)

end BalancerSync
