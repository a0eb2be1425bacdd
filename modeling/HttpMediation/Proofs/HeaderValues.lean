import HttpMediation.Proofs.Emission
import Mathlib.Data.List.DropRight
import Mathlib.Data.List.Induction

/-!
# HeaderValues — what stands under a name after a run

A header that is set takes the place of all headers of its name, in any letter case; one that is added
stands behind them.

* `HeaderWrite.lastSet?`, `HeaderWrite.addedSince` : what a list of writes says about a name.
* `Response.values_writeAll` : the values under a name after any writes.
* `HeaderOperation` : the operations that write plain headers, and what each of them writes.
* `Emitter.Succeeds` : operations that succeed one after another.
* `Emitter.values_are_last_set_and_later_adds` : the values under a name after any such operations, and
  what forbidding storage leaves.
-/

namespace HttpMediation

/-! ## Names in any letter case -/

namespace Text

theorem sameName_comm (a b : String) : sameName a b = sameName b a := by
  unfold sameName
  rw [Bool.beq_comm]

theorem sameName_congr {a b : String} (h : sameName a b = true) (c : String) :
    sameName a c = sameName b c := by
  unfold sameName at h ⊢
  rw [beq_iff_eq.mp h]

end Text

/-! ## Writes under a name -/

namespace HeaderWrite

/-- The value that the write sets under the name. -/
def setUnder? (name : String) : HeaderWrite → Option String
  | set h => if Text.sameName h.name name then some h.value else none
  | add _ => none

/-- The value that the write adds under the name. -/
def addedUnder? (name : String) : HeaderWrite → Option String
  | add h => if Text.sameName h.name name then some h.value else none
  | set _ => none

/-- The value of the last write that sets the name. -/
def lastSet? (name : String) (ws : List HeaderWrite) : Option String :=
  (ws.filterMap (setUnder? name)).getLast?

/-- The values that are added under the name behind the last write that sets it. -/
def addedSince (name : String) (ws : List HeaderWrite) : List String :=
  (ws.rtakeWhile fun w => (w.setUnder? name).isNone).filterMap (addedUnder? name)

variable {name : String} {w : HeaderWrite}

theorem lastSet?_concat (ws : List HeaderWrite) :
    lastSet? name (ws ++ [w]) = (w.setUnder? name).or (lastSet? name ws) := by
  unfold lastSet?
  rw [List.filterMap_append, List.getLast?_append]
  cases hw : w.setUnder? name with
  | none => simp [hw]
  | some v => simp [hw]

theorem addedSince_concat_of_set {v : String} (hw : w.setUnder? name = some v) (ws : List HeaderWrite) :
    addedSince name (ws ++ [w]) = [] := by
  unfold addedSince
  rw [List.rtakeWhile_concat, if_neg (by simp [hw]), List.filterMap_nil]

theorem addedSince_concat (hw : w.setUnder? name = none) (ws : List HeaderWrite) :
    addedSince name (ws ++ [w]) = addedSince name ws ++ (w.addedUnder? name).toList := by
  unfold addedSince
  rw [List.rtakeWhile_concat, if_pos (by simp [hw]), List.filterMap_append]
  cases hadded : w.addedUnder? name with
  | none => simp [hadded]
  | some v => simp [hadded]

end HeaderWrite

namespace Response

open HeaderWrite

variable {name : String}

theorem values_add (h : Header) (r : Response) :
    (r.add h).values name = r.values name ++ ((HeaderWrite.add h).addedUnder? name).toList := by
  unfold add values addedUnder?
  rw [List.filter_append, List.map_append]
  cases hname : Text.sameName h.name name with
  | false => simp [hname]
  | true => simp [hname]

/-- A header that is set drops all that have its name, so under that name it is alone. -/
theorem values_set_of_same {h : Header} (hname : Text.sameName h.name name = true) (r : Response) :
    (r.set h).values name = [h.value] := by
  have hnone : (r.headers.filter fun g => !Text.sameName g.name h.name).filter
      (fun g => Text.sameName g.name name) = [] := by
    refine List.filter_eq_nil_iff.mpr fun g hg => ?_
    have hother := (List.mem_filter.mp hg).2
    rw [Text.sameName_comm g.name h.name, Text.sameName_congr hname, Text.sameName_comm name] at hother
    simpa using hother
  unfold set values
  rw [List.filter_append, hnone]
  simp [hname]

/-- A header that is set drops none of another name. -/
theorem values_set_of_other {h : Header} (hname : Text.sameName h.name name = false) (r : Response) :
    (r.set h).values name = r.values name := by
  have hkept : (r.headers.filter fun g => !Text.sameName g.name h.name).filter
      (fun g => Text.sameName g.name name) = r.headers.filter fun g => Text.sameName g.name name := by
    rw [List.filter_filter]
    refine List.filter_congr fun g _ => ?_
    cases hg : Text.sameName g.name name with
    | false => rfl
    | true => rw [Text.sameName_congr hg, Text.sameName_comm, hname]; rfl
  unfold set values
  rw [List.filter_append, hkept]
  simp [hname]

/-- After any writes a name has the value of the last write that set it, or what it had before if there was
none, and behind that all values that have been added since. -/
theorem values_writeAll (ws : List HeaderWrite) (r : Response) :
    (writeAll ws r).values name =
      ((lastSet? name ws).map fun v => [v]).getD (r.values name) ++ addedSince name ws := by
  induction ws using List.reverseRecOn with
  | nil => exact (List.append_nil _).symm
  | append_singleton ws w ih =>
    have hlast : writeAll (ws ++ [w]) r = (writeAll ws r).write w := by
      unfold writeAll
      rw [List.foldl_append, List.foldl_cons, List.foldl_nil]
    rw [hlast, lastSet?_concat]
    cases w with
    | add h =>
      have hset : (HeaderWrite.add h).setUnder? name = none := rfl
      rw [addedSince_concat hset, hset, Option.none_or, write, values_add, ih, List.append_assoc]
    | set h =>
      cases hname : Text.sameName h.name name with
      | true =>
        have hset : (HeaderWrite.set h).setUnder? name = some h.value := if_pos hname
        rw [addedSince_concat_of_set hset, hset, write, values_set_of_same hname]
        rfl
      | false =>
        have hset : (HeaderWrite.set h).setUnder? name = none := if_neg (by simp [hname])
        have hadded : (HeaderWrite.set h).addedUnder? name = none := rfl
        rw [addedSince_concat hset, hset, Option.none_or, write, values_set_of_other hname, ih, hadded,
          Option.toList_none, List.append_nil]

end Response

/-! ## Operations -/

/-- The operations that write plain headers. -/
inductive HeaderOperation
  | add (name value : String)
  | set (name value : String)
  | noCache
  | contentType
  deriving DecidableEq, Repr

namespace HeaderOperation

/-- The operation as it is asked for. -/
def emission : HeaderOperation → Emission
  | add name value => .addHeader name value
  | set name value => .setHeader name value
  | noCache => .noCache
  | contentType => .contentType

/-- What the operation writes, on a site with that content type. -/
def writes (contentType : String) : HeaderOperation → List HeaderWrite
  | add name value => [.add ⟨name, value⟩]
  | set name value => [.set ⟨name, value⟩]
  | noCache => [.set ⟨"Cache-Control", "no-store"⟩, .add ⟨"Cache-Control", "no-cache"⟩,
      .add ⟨"Cache-Control", "must-revalidate"⟩, .set ⟨"Expires", "-1"⟩]
  | .contentType => [.set ⟨"Content-Type", contentType⟩]

end HeaderOperation

namespace Emitter

open HeaderWrite

variable {e : Emitter} {x y : Exchange}

theorem eq_of_verifyHeader {name value : String} {h : Header} (hv : e.verifyHeader name value = .ok h) :
    h = ⟨name, value⟩ :=
  (verifyHeader_eq_ok_iff.mp hv).2.2

/-- An operation that is let through writes what was asked for. -/
theorem writes_eq_of_ok (op : HeaderOperation) {request : Request} {ws : List HeaderWrite}
    (hws : e.writes request op.emission = .ok ws) : ws = op.writes e.headers.contentType := by
  cases op with
  | add name value =>
    obtain ⟨h, hv, hws⟩ := bind_ok hws
    obtain rfl := Except.ok.inj hws
    rw [eq_of_verifyHeader hv]
    rfl
  | set name value =>
    obtain ⟨h, hv, hws⟩ := bind_ok hws
    obtain rfl := Except.ok.inj hws
    rw [eq_of_verifyHeader hv]
    rfl
  | noCache =>
    obtain ⟨noStore, hstore, hws⟩ := bind_ok hws
    obtain ⟨noCache, hcache, hws⟩ := bind_ok hws
    obtain ⟨revalidate, hrevalidate, hws⟩ := bind_ok hws
    obtain ⟨expires, hexpires, hws⟩ := bind_ok hws
    obtain rfl := Except.ok.inj hws
    rw [eq_of_verifyHeader hstore, eq_of_verifyHeader hcache, eq_of_verifyHeader hrevalidate,
      eq_of_verifyHeader hexpires]
    rfl
  | contentType =>
    obtain ⟨h, hv, hws⟩ := bind_ok hws
    obtain rfl := Except.ok.inj hws
    unfold contentTypeHeader at hv
    split_ifs at hv
    rw [eq_of_verifyHeader hv]
    rfl

theorem emit_ok (op : HeaderOperation) (hemit : e.emit op.emission x = (.ok (), y)) :
    y = x.mapResponse (Response.writeAll (op.writes e.headers.contentType)) := by
  unfold emit Exchange.write at hemit
  split at hemit
  · rename_i ws hws
    obtain ⟨-, rfl⟩ := Prod.mk.inj hemit
    rw [writes_eq_of_ok op hws]
  · cases hemit

/-- Operations that succeed one after another lead from the first exchange to the second. -/
inductive Succeeds (e : Emitter) : List HeaderOperation → Exchange → Exchange → Prop
  | nil (x : Exchange) : Succeeds e [] x x
  | cons {op : HeaderOperation} {ops : List HeaderOperation} {x y z : Exchange}
      (hemit : e.emit op.emission x = (.ok (), y)) (hrest : Succeeds e ops y z) : Succeeds e (op :: ops) x z

theorem Succeeds.response {ops : List HeaderOperation} (hrun : e.Succeeds ops x y) :
    y.response = Response.writeAll (ops.flatMap (·.writes e.headers.contentType)) x.response := by
  induction hrun with
  | nil x => rfl
  | cons hemit hrest ih =>
    rw [ih, emit_ok _ hemit, List.flatMap_cons]
    unfold Exchange.mapResponse Response.writeAll
    rw [List.foldl_append]

/-! ## Forbidding storage -/

theorem cacheControl_ne_expires : Text.sameName "Cache-Control" "Expires" = false :=
  Bool.eq_false_iff.mpr (mt Ascii.sameName_iff.mp (by decide))

/-- The headers that forbid storing the response. -/
def noCacheHeaders : List Header :=
  [⟨"Cache-Control", "no-store"⟩, ⟨"Cache-Control", "no-cache"⟩, ⟨"Cache-Control", "must-revalidate"⟩,
    ⟨"Expires", "-1"⟩]

/-- The header has neither of the names that forbidding storage writes. -/
def isKeptByNoCache (h : Header) : Bool :=
  !Text.sameName h.name "Cache-Control" && !Text.sameName h.name "Expires"

/-- Forbidding storage takes the place of all that was said about it before. -/
theorem writeAll_noCache (contentType : String) (r : Response) :
    Response.writeAll (HeaderOperation.noCache.writes contentType) r =
      { r with headers := r.headers.filter isKeptByNoCache ++ noCacheHeaders } := by
  have hfilter : (fun g : Header => !Text.sameName g.name "Expires" && !Text.sameName g.name "Cache-Control") =
      isKeptByNoCache := funext fun g => Bool.and_comm _ _
  simp [HeaderOperation.writes, Response.writeAll, Response.write, Response.set, Response.add,
    List.filter_append, List.filter_filter, cacheControl_ne_expires, hfilter, noCacheHeaders]

theorem filter_noCacheHeaders : noCacheHeaders.filter isKeptByNoCache = [] := by
  have hcache : Text.sameName "Cache-Control" "Cache-Control" = true := beq_self_eq_true _
  have hexpires : Text.sameName "Expires" "Expires" = true := beq_self_eq_true _
  simp [noCacheHeaders, isKeptByNoCache, hcache, hexpires]

/-- Once storage is forbidden, forbidding it again changes nothing. -/
theorem writeAll_noCache_twice (contentType : String) (r : Response) :
    Response.writeAll (HeaderOperation.noCache.writes contentType)
        (Response.writeAll (HeaderOperation.noCache.writes contentType) r) =
      Response.writeAll (HeaderOperation.noCache.writes contentType) r := by
  simp only [writeAll_noCache, List.filter_append, List.filter_filter, Bool.and_self,
    filter_noCacheHeaders, List.append_nil]

/-- What a response says about storing it, and that nothing else in it has changed. -/
structure ForbidsStorage (before after : Response) : Prop where
  cacheControl : ∀ name, Text.sameName "Cache-Control" name = true →
    after.values name = ["no-store", "no-cache", "must-revalidate"]
  expires : ∀ name, Text.sameName "Expires" name = true → after.values name = ["-1"]
  others : ∀ name, Text.sameName "Cache-Control" name = false → Text.sameName "Expires" name = false →
    after.values name = before.values name

theorem forbidsStorage_noCache (contentType : String) (r : Response) :
    ForbidsStorage r (Response.writeAll (HeaderOperation.noCache.writes contentType) r) where
  cacheControl name hcache := by
    have hexpires : Text.sameName "Expires" name = false := by
      rw [Text.sameName_comm, ← Text.sameName_congr hcache]
      exact cacheControl_ne_expires
    show ((((r.set _).add _).add _).set _).values name = _
    rw [Response.values_set_of_other hexpires, Response.values_add, Response.values_add,
      Response.values_set_of_same hcache]
    simp [addedUnder?, hcache]
  expires name hexpires := by
    show ((((r.set _).add _).add _).set _).values name = _
    rw [Response.values_set_of_same hexpires]
  others name hcache hexpires := by
    show ((((r.set _).add _).add _).set _).values name = _
    rw [Response.values_set_of_other hexpires, Response.values_add, Response.values_add,
      Response.values_set_of_other hcache]
    simp [addedUnder?, hcache]

/-- Whether storage can be forbidden does not depend on what has been written. -/
theorem emit_noCache_again (hemit : e.emit .noCache x = (.ok (), y)) : e.emit .noCache y = (.ok (), y) := by
  have hafter : y = x.mapResponse (Response.writeAll (HeaderOperation.noCache.writes e.headers.contentType)) :=
    emit_ok .noCache hemit
  have hsame : y.mapResponse (Response.writeAll (HeaderOperation.noCache.writes e.headers.contentType)) = y := by
    rw [hafter]
    unfold Exchange.mapResponse
    rw [writeAll_noCache_twice]
  unfold emit Exchange.write at hemit ⊢
  have hrequest : y.request = x.request := by rw [hafter]; rfl
  rw [hrequest]
  split at hemit
  · rename_i ws hws
    have hwrites : ws = HeaderOperation.noCache.writes e.headers.contentType :=
      writes_eq_of_ok .noCache hws
    rw [hwrites, hsame]
  · cases hemit

/-- After any operations that succeed, a name has in any letter case the value of the last header that was
set under it, or what it had before if none was, and behind that the values that have been added since.
Forbidding storage replaces all that was said about storing the response, changes nothing else, and changes
nothing when it is repeated. -/
theorem values_are_last_set_and_later_adds {ops : List HeaderOperation} (hrun : e.Succeeds ops x y) :
    (∀ name, y.response.values name =
      ((lastSet? name (ops.flatMap (·.writes e.headers.contentType))).map fun v => [v]).getD
          (x.response.values name) ++
        addedSince name (ops.flatMap (·.writes e.headers.contentType))) ∧
      ∀ z, e.emit .noCache y = (.ok (), z) →
        ForbidsStorage y.response z.response ∧ e.emit .noCache z = (.ok (), z) := by
  refine ⟨fun name => ?_, fun z hemit => ⟨?_, emit_noCache_again hemit⟩⟩
  · rw [hrun.response, Response.values_writeAll]
  · rw [emit_ok .noCache hemit]
    exact forbidsStorage_noCache e.headers.contentType y.response

/-- The start of an exchange. -/
def untouched : Exchange :=
  { id := "", request := {} }

/-- Of what is written under a name in three spellings, the last header that was set is left and the one that
was added after it; forbidding storage leaves both alone. -/
theorem values_are_left_of_three_spellings :
    ∃ e, Emitter.new {} {} = .ok e ∧ ∃ y z,
      e.Succeeds [.add "X-A" "1", .set "x-a" "2", .add "X-a" "3"] untouched y ∧
        y.response.values "X-A" = ["2", "3"] ∧ e.emit .noCache y = (.ok (), z) ∧
        z.response.values "cache-control" = ["no-store", "no-cache", "must-revalidate"] ∧
        z.response.values "X-A" = ["2", "3"] ∧ e.emit .noCache z = (.ok (), z) := by
  have hcache : Text.sameName "Cache-Control" "cache-control" = true := Ascii.sameName_iff.mpr (by decide)
  have hother : Text.sameName "Cache-Control" "X-A" = false :=
    Bool.eq_false_iff.mpr (mt Ascii.sameName_iff.mp (by decide))
  have hother' : Text.sameName "Expires" "X-A" = false :=
    Bool.eq_false_iff.mpr (mt Ascii.sameName_iff.mp (by decide))
  obtain ⟨y, z, hrun, hemit⟩ : ∃ y z, Succeeds ⟨{}, {}, by decide, by decide, by decide⟩
      [.add "X-A" "1", .set "x-a" "2", .add "X-a" "3"] untouched y ∧
      emit ⟨{}, {}, by decide, by decide, by decide⟩ .noCache y = (.ok (), z) :=
    ⟨_, _, .cons rfl (.cons rfl (.cons rfl (.nil _))), rfl⟩
  obtain ⟨hvalues, hnoCache⟩ := values_are_last_set_and_later_adds hrun
  have hleft : y.response.values "X-A" = ["2", "3"] := by
    have hset : setUnder? "X-A" (.set ⟨"x-a", "2"⟩) = some "2" := if_pos (Ascii.sameName_iff.mpr (by decide))
    have hnone : setUnder? "X-A" (.add ⟨"X-a", "3"⟩) = none := rfl
    have hadded : addedUnder? "X-A" (.add ⟨"X-a", "3"⟩) = some "3" :=
      if_pos (Ascii.sameName_iff.mpr (by decide))
    rw [hvalues]
    show ((lastSet? "X-A" ([.add ⟨"X-A", "1"⟩] ++ [.set ⟨"x-a", "2"⟩] ++ [.add ⟨"X-a", "3"⟩])).map _).getD _ ++
      addedSince "X-A" ([.add ⟨"X-A", "1"⟩] ++ [.set ⟨"x-a", "2"⟩] ++ [.add ⟨"X-a", "3"⟩]) = _
    rw [lastSet?_concat, addedSince_concat hnone, hnone, hadded, lastSet?_concat,
      addedSince_concat_of_set hset, hset]
    rfl
  obtain ⟨hforbids, hagain⟩ := hnoCache z hemit
  exact ⟨⟨{}, {}, by decide, by decide, by decide⟩, rfl, y, z, hrun, hleft, hemit, hforbids.cacheControl _ hcache,
    (hforbids.others _ hother hother').trans hleft, hagain⟩

end Emitter

end HttpMediation
