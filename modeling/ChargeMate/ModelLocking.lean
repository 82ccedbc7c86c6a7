import ChargeMate.ModelAccounts

/-! Rotations and revocations statement by statement, under READ COMMITTED. The database holds what
has committed. A transaction keeps its own writes until it commits, and the locks on the rows it
has selected `FOR UPDATE` or updated; a statement that needs a row another transaction holds waits,
which is a step that changes nothing. An `UPDATE` of many rows takes its rows from those visible
when it starts, visits them one by one in any order, and checks its `WHERE` again on the row as it
is then. -/

namespace ChargeMate.Auth

open Relational

/-- The `WHERE` of a revoking `UPDATE`, but for `revoked_at IS NULL`. -/
inductive RevokeTarget where
  | user (userId : Uuid)
  | family (familyId : Uuid)

def RevokeTarget.covers : RevokeTarget → AuthSession → Bool
  | .user userId, s => s.userId = userId
  | .family familyId, s => s.familyId = familyId

/-- A revoking `UPDATE` under way: the visible rows it has still to visit and those it has changed.
`existing` is history, the sessions there were when it started. -/
structure BulkUpdate where
  target : RevokeTarget
  revokedAt : Timestamp
  existing : List Uuid
  todo : List Uuid
  changed : List Uuid

/-- Where a transaction stands. -/
inductive Transaction where
  /-- `rotate_auth_session` before its `SELECT ... FOR UPDATE`. -/
  | rotating (raw : String) (draws : Draws) (now : Timestamp)
  | replacing (session : AuthSession) (draws : Draws) (now : Timestamp)
  | inserted (session : AuthSession) (draws : Draws) (now : Timestamp)
  | replaced (session : AuthSession) (draws : Draws) (now : Timestamp)
  | expiring (session : AuthSession) (now : Timestamp)
  | revokingFamily (session : AuthSession) (now : Timestamp)
  /-- `revoke_all_auth_sessions` before its `UPDATE`. -/
  | revokingAll (userId : Uuid) (now : Timestamp)
  /-- A revoking `UPDATE`, in a rotation with the session that it holds. -/
  | updating (held : Option Uuid) (bulk : BulkUpdate)
  | finished

namespace Transaction

/-- The rows it has locked. -/
def holds : Transaction → Uuid → Bool
  | .replacing session _ _, id | .inserted session _ _, id | .replaced session _ _, id
  | .expiring session _, id | .revokingFamily session _, id => session.id = id
  | .updating held bulk, id => held = some id ∨ id ∈ bulk.changed
  | .rotating _ _ _, _ | .revokingAll _ _, _ | .finished, _ => false

/-- The session it is about to replace by a new one. -/
def replaces : Transaction → Option AuthSession
  | .replacing session _ _ | .inserted session _ _ | .replaced session _ _ => some session
  | _ => none

def bulk : Transaction → Option BulkUpdate
  | .updating _ bulk => some bulk
  | _ => none

/-- The target of the `UPDATE` it is about to start. -/
def target : Transaction → Option RevokeTarget
  | .revokingFamily session _ => some (.family session.familyId)
  | .revokingAll userId _ => some (.user userId)
  | _ => none

/-- A call of `rotate_auth_session` that has not ended. -/
def isRotation : Transaction → Bool
  | .revokingAll _ _ | .updating none _ | .finished => false
  | _ => true

end Transaction

/-- A revocation that has committed: its target, the sessions there were when its `UPDATE` started,
and the rotations that were under way at its commit. -/
structure Revocation where
  target : RevokeTarget
  existing : List Uuid
  rivals : List Nat

/-- The committed database, the transactions in the order in which they began, and the history of
the revocations. -/
structure LockState where
  db : AuthDatabase
  txs : List Transaction
  revocations : List Revocation

inductive LockAction where
  | beginRotation (raw : String) (draws : Draws) (now : Timestamp)
  | beginRevokeAll (userId : Uuid) (now : Timestamp)
  | select (t : Nat)
  | insert (t : Nat)
  | write (t : Nat)
  | update (t : Nat)
  | visit (t : Nat) (id : Uuid)
  | commit (t : Nat)
  | rollback (t : Nat)

namespace LockState

variable (env : Environment) (s : LockState)

/-- No other transaction has locked the row. -/
def Free (t : Nat) (id : Uuid) : Prop :=
  ∀ k < s.txs.length, k ≠ t → ∀ tx ∈ s.txs[k]?, tx.holds id = false

instance (t : Nat) (id : Uuid) : Decidable (s.Free t id) := by
  unfold Free
  infer_instance

def put (t : Nat) (tx : Transaction) : LockState := { s with txs := s.txs.set t tx }

/-- The branch `rotate_auth_session` takes with the row it has locked. -/
def branch (session : AuthSession) (draws : Draws) (now : Timestamp) : Transaction :=
  if session.isRevoked then .revokingFamily session now
  else if isExpired session.expiresAt now then .expiring session now
  else
    match s.db.users.find session.userId with
    | none => .finished
    | some user =>
        if !user.isActive then .revokingFamily session now else .replacing session draws now

/-- `SELECT ... WHERE token_hash = ... FOR UPDATE`. -/
def select (t : Nat) (raw : String) (draws : Draws) (now : Timestamp) : LockState :=
  match s.db.sessionOf env raw with
  | none => s.put t .finished
  | some session => if s.Free t session.id then s.put t (s.branch session draws now) else s

/-- The new session of a rotation, against the constraints of the committed rows. -/
def replacement (session : AuthSession) (draws : Draws) (now : Timestamp) :
    Option (AuthSession × AuthDatabase) :=
  s.db.openSession draws session.userId session.familyId
    (issueRefreshToken env draws.tokenUrlsafe now)

def insert (t : Nat) (session : AuthSession) (draws : Draws) (now : Timestamp) : LockState :=
  match s.replacement env session draws now with
  | none => s.put t .finished
  | some _ => s.put t (.inserted session draws now)

/-- The rows a revoking `UPDATE` sees when it starts. -/
def snapshot (target : RevokeTarget) : List Uuid :=
  (s.db.authSessions.rows.filter fun session => target.covers session && !session.isRevoked).map
    AuthSession.id

def startUpdate (t : Nat) (held : Option Uuid) (target : RevokeTarget) (now : Timestamp) :
    LockState :=
  s.put t (.updating held {
    target := target
    revokedAt := now
    existing := (s.db.authSessions.rows.filter target.covers).map AuthSession.id
    todo := s.snapshot target
    changed := [] })

/-- Visit a row: change it if the `WHERE` still holds of it, pass over it otherwise. -/
def visit (t : Nat) (held : Option Uuid) (bulk : BulkUpdate) (id : Uuid) : LockState :=
  if s.Free t id then
    let bulk := { bulk with todo := bulk.todo.filter (· ≠ id) }
    match s.db.authSessions.find id with
    | none => s.put t (.updating held bulk)
    | some session =>
        if bulk.target.covers session && !session.isRevoked then
          s.put t (.updating held { bulk with changed := id :: bulk.changed })
        else s.put t (.updating held bulk)
  else s

/-- The rotations that have not ended. -/
def rotations : List Nat :=
  (List.range s.txs.length).filter fun k => s.txs[k]?.any Transaction.isRotation

/-- A commit makes the writes of the transaction visible and releases its locks. -/
def commit (t : Nat) : Transaction → LockState
  | .replaced session draws now =>
      match s.replacement env session draws now with
      | none => s.put t .finished
      | some (replacement, db) =>
          { s.put t .finished with
            db := { db with
              authSessions := db.authSessions.set (session.replaceBy replacement now) } }
  | .expiring session now =>
      { s.put t .finished with db := s.db.revokeWhere (fun r => r.id = session.id) now }
  | .updating _ bulk =>
      if bulk.todo = [] then
        { s.put t .finished with
          db := s.db.revokeWhere (fun r => r.id ∈ bulk.changed) bulk.revokedAt
          revocations :=
            s.revocations ++ [⟨bulk.target, bulk.existing, (s.put t .finished).rotations⟩] }
      else s
  | _ => s

def step (a : LockAction) : LockState :=
  match a with
  | .beginRotation raw draws now => { s with txs := s.txs ++ [.rotating raw draws now] }
  | .beginRevokeAll userId now => { s with txs := s.txs ++ [.revokingAll userId now] }
  | .select t =>
      match s.txs[t]? with
      | some (.rotating raw draws now) => s.select env t raw draws now
      | _ => s
  | .insert t =>
      match s.txs[t]? with
      | some (.replacing session draws now) => s.insert env t session draws now
      | _ => s
  | .write t =>
      match s.txs[t]? with
      | some (.inserted session draws now) => s.put t (.replaced session draws now)
      | _ => s
  | .update t =>
      match s.txs[t]? with
      | some (.revokingFamily session now) =>
          s.startUpdate t (some session.id) (.family session.familyId) now
      | some (.revokingAll userId now) => s.startUpdate t none (.user userId) now
      | _ => s
  | .visit t id =>
      match s.txs[t]? with
      | some (.updating held bulk) => if id ∈ bulk.todo then s.visit t held bulk id else s
      | _ => s
  | .commit t =>
      match s.txs[t]? with
      | some tx => s.commit env t tx
      | none => s
  | .rollback t => s.put t .finished

def start (db : AuthDatabase) : LockState where
  db := db
  txs := []
  revocations := []

end LockState

end ChargeMate.Auth
