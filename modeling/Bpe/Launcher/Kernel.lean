import Bpe.Lib.Prog
import Bpe.Native.Protocol

/-!
# The launcher's system calls

`Call` lists the system calls `launcher.c` issues, each with the arguments
that vary. `Call.Ok c` is what `c` returns on success and `Reply c` adds the
failures, an `errno` in `1..4095`. A run of the launcher is driven by an
arbitrary list of replies, so every outcome a kernel may produce is covered.

The contracts of the calls that the types fix: a read returns at most the
bytes asked for; a write returns a positive count not above the length; a
`SOCK_SEQPACKET` send is all or nothing; opened descriptors are
non-negative; a PID is in `1..2^22 - 1`, and a new child's PID is not its
parent's.
-/

namespace Bpe.Launcher

open Bpe.Native

/-! ## Constants of the Linux ABI -/

def eintr : Nat := 4
def ebadf : Nat := 9
def eagain : Nat := 11
def enomem : Nat := 12
def enfile : Nat := 23
def emfile : Nat := 24
def enosys : Nat := 38

def fdCloexec : Nat := 1
def oRdonly : Nat := 0
def oWronly : Nat := 1
def oRdwr : Nat := 2
def oAccmode : Nat := 3
def oNonblock : Nat := 0x800
def oPath : Nat := 0x200000

def pollin : BitVec 16 := 0x1
def pollpri : BitVec 16 := 0x2
def pollerr : BitVec 16 := 0x8
def pollhup : BitVec 16 := 0x10
def pollnval : BitVec 16 := 0x20

def wnohang : Nat := 1
def wstopped : Nat := 2
def wexited : Nat := 4
def wnowait : Nat := 0x1000000

def sockSeqpacket : Int := 5
def afUnix : Nat := 1
def cgroup2SuperMagic : Nat := 0x63677270
def procSuperMagic : Nat := 0x9fa0
def seccompModeFilter : Nat := 2
def intMax : Nat := 2 ^ 31 - 1
def uint64Max : Nat := 2 ^ 64 - 1

/-! ## Calls and replies -/

/-- The value of `errno` a failing call leaves. -/
abbrev Errno : Type := { e : Nat // 1 ≤ e ∧ e ≤ protocolMaxErrno }

abbrev Pid : Type := { p : Nat // 1 ≤ p ∧ p ≤ linuxMaxPid }

inductive FileKind where
  | chr | dir | reg | other
  deriving DecidableEq

/-- The parts of `struct stat` that the launcher reads. -/
structure Stat where
  kind : FileKind
  rdevMajor : Nat
  rdevMinor : Nat

/-- The parts of `siginfo_t` that the launcher reads; all zero when a
`WNOHANG` wait finds nothing. -/
structure SigInfo where
  pid : Int
  code : Int
  status : Int

structure Timespec where
  sec : Int
  nsec : Int
  deriving DecidableEq

structure PollFd where
  fd : Int
  events : BitVec 16
  deriving DecidableEq

inductive CgroupFile where
  | events | kill | procs
  deriving DecidableEq

inductive Call where
  | clockGettime
  | fstat (fd : Int)
  | fstatfs (fd : Int)
  | getfd (fd : Int)
  | getfl (fd : Int)
  | setfd (fd : Int) (flags : Nat)
  | setfl (fd : Int) (flags : Nat)
  | getSoType (fd : Int)
  | getSoAcceptconn (fd : Int)
  | getsockname (fd : Int)
  | getpeername (fd : Int)
  | recv (fd : Int) (size : Nat)
  | openProcFd
  | getdents64 (fd : Int) (size : Nat)
  | openat (file : CgroupFile)
  | lseek (fd : Int)
  | read (fd : Int) (size : Nat)
  | write (fd : Int) (bytes : List UInt8)
  | close (fd : Int)
  | sigemptyset
  | sigactionSigchld
  | sigprocmask
  | setNoNewPrivs
  | setSeccomp
  | getNoNewPrivs
  | getSeccomp
  | send (bytes : List UInt8)
  | poll (fds : List PollFd) (timeout : Nat)
  | pipe2
  | clone3 (parent : Pid)
  | pidfdSendSignal (fd : Int) (signal : Nat)
  | waitid (fd : Int) (options : Nat)
  deriving DecidableEq

/-- What a successful call returns. `getSoType` and its like return the value
with the length the kernel wrote; `poll` returns the `revents` of the
descriptor at each index; a count is at most what was asked for, and may be
less. The child that `clone3` returns is another process. -/
@[reducible] def Call.Ok : Call → Type
  | .clockGettime => Timespec
  | .fstat _ => Stat
  | .fstatfs _ => Nat
  | .getfd _ | .getfl _ => Nat
  | .getSoType _ | .getSoAcceptconn _ => Int × Nat
  | .getsockname _ | .getpeername _ => Nat × Nat
  | .recv _ size | .getdents64 _ size | .read _ size => { bs : List UInt8 // bs.length ≤ size }
  | .openProcFd | .openat _ => Nat
  | .lseek _ => Nat
  | .write _ bytes | .send bytes => { n : Nat // n ≤ bytes.length }
  | .getNoNewPrivs | .getSeccomp => Nat
  | .poll _ _ => Nat → BitVec 16
  | .pipe2 => Nat × Nat
  | .clone3 parent => { child : Pid // child ≠ parent } × Nat
  | .waitid _ _ => SigInfo
  | .setfd _ _ | .setfl _ _ | .close _ | .sigemptyset | .sigactionSigchld | .sigprocmask
  | .setNoNewPrivs | .setSeccomp | .pidfdSendSignal _ _ => Unit

abbrev Reply (c : Call) : Type := Except Errno c.Ok

-- With these `simp` decides its `Nonempty` side conditions at once.
instance nonemptyCall : Nonempty Call := ⟨.clockGettime⟩

instance nonemptyReply (c : Call) : Nonempty (Reply c) := ⟨.error ⟨1, by decide⟩⟩

instance nonemptyEvent : Nonempty (Event Reply) := ⟨⟨.clockGettime, .error ⟨1, by decide⟩⟩⟩

abbrev Trace : Type := List (Event Reply)

/-- The records that were sent whole, in order. -/
def delivered (t : Trace) : List (List UInt8) :=
  t.filterMap fun
    | ⟨.send bytes, .ok n⟩ => if n.val = bytes.length then some bytes else none
    | _ => none

@[simp] theorem delivered_nil : delivered [] = [] := rfl

@[simp] theorem delivered_append (t t' : Trace) :
    delivered (t ++ t') = delivered t ++ delivered t' := by
  simp [delivered]

def wholeSend : Event Reply → Bool
  | ⟨.send bytes, .ok n⟩ => n.val = bytes.length
  | _ => true

/-- Every record was sent whole or not at all, as on a `SOCK_SEQPACKET`
socket. -/
def WholeSends (t : Trace) : Prop := t.all wholeSend = true

@[simp] theorem wholeSends_append (t t' : Trace) :
    WholeSends (t ++ t') ↔ WholeSends t ∧ WholeSends t' := by
  simp [WholeSends]

theorem WholeSends.count {t : Trace} {bytes : List UInt8} {n : { n : Nat // n ≤ bytes.length }}
    (h : WholeSends t) (hmem : ⟨.send bytes, .ok n⟩ ∈ t) : n.val = bytes.length := by
  simpa [wholeSend] using List.all_eq_true.1 h _ hmem

/-! ## The launcher's state -/

/-- `struct bpe_runtime`, without `launcher_pid`. A descriptor that is not
held is `-1`. -/
structure Runtime where
  eventsFd : Int := -1
  killFd : Int := -1
  procsFd : Int := -1
  readyReadFd : Int := -1
  readyWriteFd : Int := -1
  pidfd : Int := -1
  childPid : Int := -1
  sequence : Nat := 0
  achieved : Nat := 0
  startedNs : Nat := 0
  controlUsable : Bool := false
  cgroupUsable : Bool := false
  peerOpen : Bool := true
  childCreated : Bool := false
  childReaped : Bool := false

/-- `struct bpe_failure`; a stage of `none` is the initial zero. -/
structure Failure where
  stage : Option NativeStage := none
  reason : NativeReason := .none
  errorNumber : Nat := 0

structure LState where
  errno : Nat := 0
  rt : Runtime := {}
  failure : Failure := {}

/-- Launcher code: it issues calls and works on the launcher's state. -/
abbrev LM : Type → Type := Proc Call Reply LState

/-- Issue a call; `none` is the `-1` return, with `errno` set. -/
def sys (c : Call) : LM (Option c.Ok) := fun s =>
  .call c fun
    | .ok r => .ret (some r, s)
    | .error e => .ret (none, { s with errno := e })

/-- A descriptor-returning call as C sees it: `-1` on failure. -/
def asFd : Option Nat → Int
  | some fd => fd
  | none => -1

def getErrno : LM Nat := do return (← get).errno

def setErrno (e : Nat) : LM Unit := modify fun s => { s with errno := e }

def getRt : LM Runtime := do return (← get).rt

def modifyRt (f : Runtime → Runtime) : LM Unit := modify fun s => { s with rt := f s.rt }

/-- The retry loop around a call that a signal may interrupt, with
`interruptions` further attempts left. -/
def retryInterrupted (c : Call) : Nat → LM (Option c.Ok)
  | 0 => sys c
  | interruptions + 1 => do
    match ← sys c with
    | some r => return some r
    | none =>
      if (← getErrno) = eintr then retryInterrupted c interruptions
      else return none

/-- `do … while (interruptions < 8U)`: eight attempts in all. -/
def sysInterruptible (c : Call) : LM (Option c.Ok) := retryInterrupted c 7

/-- `do … while (result < 0 && errno == EINTR)`: no bound on the attempts. -/
def sysUninterrupted (fuel : Nat) (c : Call) : LM (Option c.Ok) :=
  Proc.iterate fuel (fun _ => do
    match ← sys c with
    | some r => return .inr (some r)
    | none =>
      if (← getErrno) = eintr then return .inl ()
      else return .inr none) ()

/-- `bpe_set_failure`: the first failure is kept. -/
def bpeSetFailure (stage : NativeStage) (reason : NativeReason) (errorNumber : Nat) : LM Unit :=
  modify fun s =>
    if s.failure.reason ≠ .none then s
    else { s with failure := { stage := some stage, reason, errorNumber } }

end Bpe.Launcher
