import PosixVfs.Posix.Descriptor

/-!
# Posix/Socket — calls on sockets

Sockets come from one pool, chosen by `setSocketPool`.  A socket that cannot be made is closed and
goes back; a connection that cannot be accepted only goes back.
-/

namespace PosixVfs.Posix

variable {ε : Type} [Embedder ε]

/-- Choose the pool that sockets come from. -/
def setSocketPool (p : Posix ε) (pool : Nat) : Posix ε :=
  { p with world := { p.world with socketPool := some pool } }

/-- A fresh socket from the chosen pool, if there is a pool and it has one. -/
def freshSocket (p : Posix ε) : Option SocketId × World ε :=
  match p.world.socketPool with
  | some pool => p.world.acquireSocket pool
  | none => (none, p.world)

/-- Make a socket, and bind it to the lowest free descriptor. -/
def socket (p : Posix ε) (domain kind protocol : Int32) : Except Errno Fd × Posix ε :=
  track <| p.inTable <|
    match p.freshSocket with
    | (none, w) => (.error .tooManyOpenFiles, p.table, w)
    | (some s, w) =>
        match w.ask (.create s domain kind protocol) with
        | (.ok (), w) => (IoId.socket s).register p.table w
        | (.error e, w) =>
            let (closed, t, w) := (IoId.socket s).close p.table w
            (.error e, t, w.noteFailure closed .socketCloseFailed)

/-- The socket bound to a descriptor. -/
def socketAt (p : Posix ε) (fd : Fd) : Except Errno SocketId :=
  match p.object fd with
  | .ok (.socket s) => .ok s
  | .ok _ => .error .notASocket
  | .error e => .error e

/-- Accept a connection on the socket bound to `fd`.  The result is the descriptor of the
connection, with the address of the peer if that is known. -/
def accept (p : Posix ε) (fd : Fd) : Except Errno (Fd × Option Address) × Posix ε :=
  track <|
    match p.socketAt fd with
    | .error e => (.error e, p)
    | .ok listener =>
        p.inTable <|
          match p.freshSocket with
          | (none, w) => (.error .processLimit, p.table, w)
          | (some connection, w) =>
              match w.ask (.accept listener connection) with
              | (.error e, w) => (.error e, p.table, (w.giveBack (.io (.socket connection))).2)
              | (.ok peer, w) =>
                  let (fd, t, w) := (IoId.socket connection).register p.table w
                  (fd.map (·, peer), t, w)

/-- Carry out an operation on the socket bound to `fd`. -/
def onSocket (p : Posix ε) (fd : Fd) (op : SocketOp) : Except Errno op.Value × Posix ε :=
  track <|
    match p.socketAt fd with
    | .ok s => p.inWorld (p.world.ask (.socket s op))
    | .error e => (.error e, p)

end PosixVfs.Posix
