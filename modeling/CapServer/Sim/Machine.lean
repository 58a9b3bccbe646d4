import CapServer.Server.Basic
import CapServer.Sim.FaultPlan
import CapServer.Sim.ProcessServer

/-!
# A machine in memory

All that surrounds a server: the simulated kernel and process server, each behind a fault plan, a
directory of name servers, and a place for state of the service's own.

`Machine.platform` is what a server runs on, and `Machine.names` its name service.
-/

namespace CapServer

/-- The surroundings of a server, with state `ν` of its service. -/
structure Machine (ν : Type) where
  kernel : SimKernel
  kernelFaults : FaultPlan KernelCall
  procs : SimProcs
  procFaults : FaultPlan ProcCall
  directory : Directory
  service : ν

namespace Machine

variable {ν : Type}

/-- A machine to which nothing has happened. -/
def fresh (service : ν) : Machine ν := ⟨.empty, .empty, .empty, .empty, .empty, service⟩

/-! ## Components -/

def kernelPart : Part (Machine ν) SimKernel where
  get m := m.kernel
  set k m := { m with kernel := k }

def kernelFaultsPart : Part (Machine ν) (FaultPlan KernelCall) where
  get m := m.kernelFaults
  set p m := { m with kernelFaults := p }

def procFaultsPart : Part (Machine ν) (FaultPlan ProcCall) where
  get m := m.procFaults
  set p m := { m with procFaults := p }

def directoryPart : Part (Machine ν) Directory where
  get m := m.directory
  set d m := { m with directory := d }

def servicePart : Part (Machine ν) ν where
  get m := m.service
  set s m := { m with service := s }

/-- The process server and the memory it shares. -/
def procsPart : Part (World (Machine ν)) SimProcs.Run where
  get w := (w.memory, w.rest.procs)
  set r w := { memory := r.1, rest := { w.rest with procs := r.2 } }

/-! ## What a server runs on -/

/-- The kernel, behind its fault plan. -/
def guardedKernel : Kernel (World (Machine ν)) :=
  ((SimKernel.kernel.lift kernelPart).withFaults kernelFaultsPart).lift World.restPart

/-- The process server, behind its fault plan. -/
def guardedProcs : ProcessServer (World (Machine ν)) :=
  (SimProcs.processServer.lift procsPart).withFaults (World.restPart.comp procFaultsPart)

/-- The kernel and the process server of the machine. -/
def platform : Platform (World (Machine ν)) := ⟨guardedKernel, guardedProcs⟩

/-- The name service of the machine. -/
def names : NameResolver (World (Machine ν)) :=
  Directory.resolver.lift (World.restPart.comp directoryPart)

end Machine

end CapServer
