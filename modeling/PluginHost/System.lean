import PluginHost.Counting
import PluginHost.Guest
import PluginHost.Settings
import PluginHost.Text.Utf8
/-!
The system interface that guests may be given: arguments, environment variables, clocks, random
octets and the standard streams. No file is ever open besides the streams.
-/
namespace PluginHost

/-! Numbers that system calls answer with. -/
namespace Errno

def success : UInt32 := 0

def badDescriptor : UInt32 := 8

def invalid : UInt32 := 28

def noSuchCall : UInt32 := 52

end Errno

inductive SystemCall where
  | argsGet
  | argsSizesGet
  | environGet
  | environSizesGet
  | clockTimeGet
  | clockResolution
  | write
  | yield
  | random
  | exit
  /-- A call that finds nothing to work on, since no file, socket or event is open. -/
  | unavailable (name : String) (params : List ValueType)
  deriving DecidableEq, Inhabited

namespace SystemCall

def working : List (String × SystemCall) :=
  [("args_get", .argsGet), ("args_sizes_get", .argsSizesGet), ("environ_get", .environGet),
    ("environ_sizes_get", .environSizesGet), ("clock_time_get", .clockTimeGet),
    ("clock_res_get", .clockResolution), ("fd_write", .write), ("sched_yield", .yield),
    ("random_get", .random), ("proc_exit", .exit)]

def unavailableCalls : List (String × List ValueType) :=
  [("fd_advise", [.i32, .i64, .i64, .i32]),
    ("fd_allocate", [.i32, .i64, .i64]),
    ("fd_close", [.i32]),
    ("fd_datasync", [.i32]),
    ("fd_fdstat_get", [.i32, .i32]),
    ("fd_fdstat_set_flags", [.i32, .i32]),
    ("fd_fdstat_set_rights", [.i32, .i64, .i64]),
    ("fd_filestat_get", [.i32, .i32]),
    ("fd_filestat_set_size", [.i32, .i64]),
    ("fd_filestat_set_times", [.i32, .i64, .i64, .i32]),
    ("fd_pread", [.i32, .i32, .i32, .i64, .i32]),
    ("fd_prestat_get", [.i32, .i32]),
    ("fd_prestat_dir_name", [.i32, .i32, .i32]),
    ("fd_pwrite", [.i32, .i32, .i32, .i64, .i32]),
    ("fd_read", [.i32, .i32, .i32, .i32]),
    ("fd_readdir", [.i32, .i32, .i32, .i64, .i32]),
    ("fd_renumber", [.i32, .i32]),
    ("fd_seek", [.i32, .i64, .i32, .i32]),
    ("fd_sync", [.i32]),
    ("fd_tell", [.i32, .i32]),
    ("path_create_directory", [.i32, .i32, .i32]),
    ("path_filestat_get", [.i32, .i32, .i32, .i32, .i32]),
    ("path_filestat_set_times", [.i32, .i32, .i32, .i32, .i64, .i64, .i32]),
    ("path_link", [.i32, .i32, .i32, .i32, .i32, .i32, .i32]),
    ("path_open", [.i32, .i32, .i32, .i32, .i32, .i64, .i64, .i32, .i32]),
    ("path_readlink", [.i32, .i32, .i32, .i32, .i32, .i32]),
    ("path_remove_directory", [.i32, .i32, .i32]),
    ("path_rename", [.i32, .i32, .i32, .i32, .i32, .i32]),
    ("path_symlink", [.i32, .i32, .i32, .i32, .i32]),
    ("path_unlink_file", [.i32, .i32, .i32]),
    ("poll_oneoff", [.i32, .i32, .i32, .i32]),
    ("proc_raise", [.i32]),
    ("sock_accept", [.i32, .i32, .i32]),
    ("sock_recv", [.i32, .i32, .i32, .i32, .i32, .i32]),
    ("sock_send", [.i32, .i32, .i32, .i32, .i32]),
    ("sock_shutdown", [.i32, .i32])]

def all : List (String × SystemCall) :=
  working ++ unavailableCalls.map fun (name, params) => (name, .unavailable name params)

def ofName? (name : String) : Option SystemCall := all.lookup name

def signature : SystemCall → Signature
  | .argsGet | .argsSizesGet | .environGet | .environSizesGet | .clockResolution | .random =>
    ⟨[.i32, .i32], [.i32]⟩
  | .clockTimeGet => ⟨[.i32, .i64, .i32], [.i32]⟩
  | .write => ⟨[.i32, .i32, .i32, .i32], [.i32]⟩
  | .yield => ⟨[], [.i32]⟩
  | .exit => ⟨[.i32], []⟩
  | .unavailable _ params => ⟨params, [.i32]⟩

structure View where
  size : Nat
  /-- What memory held when the call began. -/
  read : (address length : Nat) → Bytes
  /-- What has been written, the latest first. -/
  written : List (Nat × Bytes)

abbrev Access (α : Type) := ExceptT TrapCause (StateM View) α

def badPointer : TrapCause := .engine "pointer is not aligned or out of bounds"

def claim (address length alignment : Nat) : Access Unit := do
  if address % alignment ≠ 0 ∨ (← get).size < address + length then throw badPointer

def put (address : Nat) (bytes : Bytes) (alignment : Nat) : Access Unit := do
  if bytes.isEmpty then return
  claim address bytes.length alignment
  modify fun v => { v with written := (address, bytes) :: v.written }

def littleEndian : (octets n : Nat) → Bytes
  | 0, _ => []
  | octets + 1, n => UInt8.ofNat n :: littleEndian octets (n / 256)

def ofLittleEndian (bytes : Bytes) : Nat := bytes.foldr (fun b n => b.toNat + 256 * n) 0

def putWord (address n : Nat) : Access Unit := put address (littleEndian 4 n) 4

def getWord (address : Nat) : Access Nat := do
  claim address 4 4
  return ofLittleEndian ((← get).read address 4)

abbrev Pieces := List Bytes

def putPieces (buffer : Nat) : Pieces → Access Unit
  | [] => return
  | p :: ps => do
    put buffer p 1
    putPieces (buffer + p.length) ps

/-- Writes texts one after another, each ended by a zero, and a table of their addresses. -/
def putTexts (table buffer : Nat) : List Pieces → Access Unit
  | [] => return
  | t :: ts => do
    putWord table buffer
    putPieces buffer (t ++ [[0]])
    putTexts (table + 4) (buffer + t.flatten.length + 1) ts

def putSizes (count size : Nat) (texts : List Pieces) : Access Unit := do
  putWord size (total (texts.map (·.flatten.length + 1)))
  putWord count texts.length

/-- The length of the first buffer of a table that is not empty, after it was found in memory. -/
def firstLength (table : Nat) : Nat → Access Nat
  | 0 => return 0
  | n + 1 => do
    let address ← getWord table
    let length ← getWord (table + 4)
    if length = 0 then firstLength (table + 8) n
    else
      claim address length 1
      return length

def arguments (o : SystemOptions) : List Pieces :=
  (o.programName :: o.args).map fun arg => [Text.Utf8.encode arg]

def environment (o : SystemOptions) : List Pieces :=
  o.env.map fun (key, value) => [key, "=", value].map Text.Utf8.encode

def showClock (id address nanos : Nat) : Access UInt32 := do
  if 3 < id then return Errno.invalid
  else if 1 < id then return Errno.badDescriptor
  else
    put address (littleEndian 8 nanos) 8
    return Errno.success

def run (o : SystemOptions) (clock : Nat) (c : SystemCall) (args : List Nat) : Access UInt32 := do
  match c, args with
  | .argsGet, [table, buffer] => putTexts table buffer (arguments o); return Errno.success
  | .argsSizesGet, [count, size] => putSizes count size (arguments o); return Errno.success
  | .environGet, [table, buffer] => putTexts table buffer (environment o); return Errno.success
  | .environSizesGet, [count, size] => putSizes count size (environment o); return Errno.success
  | .clockTimeGet, [id, _, address] => showClock id address clock
  | .clockResolution, [id, address] => showClock id address 1
  | .write, [descriptor, table, count, result] =>
    if descriptor = 1 ∨ descriptor = 2 then
      putWord result (← firstLength table count)
      return Errno.success
    else return Errno.badDescriptor
  | .random, [address, length] =>
    if length = 0 then return Errno.success
    claim address length 1
    put address (List.replicate length 0) 1
    return Errno.success
  | .exit, [status] =>
    throw (if status < 126 then .exited (UInt32.ofNat status)
      else .engine "exit with invalid exit status outside of [0..126)")
  | .unavailable .., _ => return Errno.badDescriptor
  | _, _ => return Errno.success

end SystemCall

end PluginHost
