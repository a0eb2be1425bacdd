import HttpMediation.Session.Store

/-!
# FaultyStore — a store that fails on demand

A store in memory that keeps a record of its calls and fails those it has been told to.  With it,
what an operation does when its store fails can be tried out.
-/

namespace HttpMediation

/-- An order to fail calls of one name: first some are let through, then some fail. -/
structure StoreFault where
  call : String
  skip : Nat
  count : Nat
  error : Error

/-- A store in memory, its orders in force, and its calls so far. -/
structure FaultyStore where
  live : Sessions := .empty
  faults : List StoreFault := []
  calls : List (String × String) := []

namespace FaultyStore

/-- Asks the orders about a call, one after another until one of them fails it; an order that lets
the call through uses up one of its skips, and an order that is used up does not count. -/
def ask (call : String) : List StoreFault → Option Error × List StoreFault
  | [] => (none, [])
  | f :: fs =>
    if f.call = call then
      if 0 < f.skip then
        let (e, fs) := ask call fs
        (e, { f with skip := f.skip - 1 } :: fs)
      else if 0 < f.count then (some f.error, { f with count := f.count - 1 } :: fs)
      else
        let (e, fs) := ask call fs
        (e, f :: fs)
    else
      let (e, fs) := ask call fs
      (e, f :: fs)

/-- Records the call and answers it; a failing call changes no session. -/
def answer (c : StoreCall) (s : FaultyStore) : StoreAnswer × FaultyStore :=
  let calls := s.calls ++ [(c.name, c.id)]
  match ask c.name s.faults with
  | (some e, faults) => (.error e, { s with faults := faults, calls := calls })
  | (none, faults) =>
    let (x, live) := Sessions.answer c s.live
    (x, { live := live, faults := faults, calls := calls })

/-- Gives an order. -/
def order (f : StoreFault) (s : FaultyStore) : FaultyStore :=
  { s with faults := s.faults ++ [f] }

/-- Keeps a session without a record. -/
def keep (session : Session) (s : FaultyStore) : FaultyStore :=
  { s with live := s.live.insert session.id session }

/-- Begins a new record. -/
def forget (s : FaultyStore) : FaultyStore :=
  { s with calls := [] }

end FaultyStore

end HttpMediation
