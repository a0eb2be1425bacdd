import HttpMediation.Proofs.Staging

/-!
# SizeCeiling — the bound on the size of a file is exact

What comes of a body depends on the bytes that it delivers, not on the pieces in which they arrive.  A disk
that does not take the bytes is another matter: what a copy comes to is said for disks that take them.

* `Upload.delivery` : what a body delivers, its pieces put together.
* `Upload.pieces` : what a copy with a limit writes, and in which pieces.
* `Disk.TakesAll` : every call succeeds that writes these pieces.
* `Upload.takesAll_pieces_iff` : where no call fails for reasons from outside, the bytes only have to fit into a
  file.
* `Upload.copyBody_copies` : what a copy with a limit answers, and what the file then holds.
* `Upload.copyBody_firstReads` : a copy with a limit reads no further than that.
* `Upload.size_ceiling_is_exact` : what a copy of at most so many bytes comes to.
-/

namespace HttpMediation

/-! ## Disks that take what is written -/

namespace Disk

variable {d d' : Disk} {p : Place} {name : String} {content : List UInt8}

/-- Every call succeeds that writes these pieces to the end of a staged file, one after another, and then
waits until they are written. -/
def TakesAll (name : String) : (pieces : List (List UInt8)) → Disk → Prop
  | [], d => d.sync.1 = .ok ()
  | bytes :: rest, d =>
    (d.append .staging name bytes).1 = .ok () ∧ TakesAll name rest (d.append .staging name bytes).2

/-- No call fails for reasons from outside. -/
def Faultless (d : Disk) : Prop :=
  ∀ n, d.fails n = none

namespace Faultless

theorem change {names : List (Place × String)} (h : d.Faultless) (hchanges : ChangesOnly names d d') :
    d'.Faultless := fun n => by
  rw [hchanges.fails]
  exact h n

theorem append_eq (h : d.Faultless) (hheld : d.content? p name = some content) (bytes : List UInt8) :
    (d.append p name bytes).1 =
      if maxContentSize < content.length + bytes.length then .error .fileTooLarge else .ok () := by
  simp only [append, attempt, h d.calls, hheld, Option.getD_some]
  split <;> rfl

theorem sync_eq (h : d.Faultless) : d.sync.1 = .ok () := by
  simp only [sync, attempt, h d.calls]

/-- Where no call fails for reasons from outside, everything is written that a file has room for. -/
theorem takesAll_iff (h : d.Faultless) (hheld : d.content? .staging name = some content)
    (hroom : content.length ≤ maxContentSize) (pieces : List (List UInt8)) :
    d.TakesAll name pieces ↔ content.length + pieces.flatten.length ≤ maxContentSize := by
  induction pieces generalizing d content with
  | nil => exact iff_of_true h.sync_eq hroom
  | cons bytes rest ih =>
    rw [TakesAll, List.flatten_cons, List.length_append]
    rcases happended : d.append .staging name bytes with ⟨out, d'⟩
    have hout := h.append_eq hheld bytes
    rw [happended] at hout
    subst hout
    by_cases hfits : content.length + bytes.length ≤ maxContentSize
    · rw [if_neg (Nat.not_lt_of_le hfits)] at happended ⊢
      obtain ⟨hwritten, -⟩ := append_ok hheld happended
      have hrest := ih (h.change (append_changesOnly happended)) hwritten (by rwa [List.length_append])
      rw [hrest, List.length_append, Nat.add_assoc]
      exact and_iff_right rfl
    · rw [if_pos (Nat.lt_of_not_le hfits)]
      refine iff_of_false (fun hall => nomatch hall.1) ?_
      omega

end Faultless

end Disk

namespace Upload

open Disk

/-! ## What a body delivers -/

/-- Bytes, and what kept further ones from coming if they did not just end. -/
structure Delivery where
  bytes : List UInt8
  failure? : Option IoKind

namespace Delivery

variable {x : Delivery} {bytes : List UInt8} {n size : Nat}

/-- The same with these bytes before it. -/
def after (bytes : List UInt8) (x : Delivery) : Delivery :=
  { x with bytes := bytes ++ x.bytes }

/-- The first bytes.  Whoever has read them all does not learn how it goes on. -/
def upTo (n : Nat) (x : Delivery) : Delivery :=
  ⟨x.bytes.take n, if x.bytes.length < n then x.failure? else none⟩

/-- The answer of a copy, so many bytes counted already. -/
def copied (size : Nat) (x : Delivery) : Except IoKind Nat :=
  match x.failure? with
  | some k => .error k
  | none => .ok (size + x.bytes.length)

theorem upTo_zero : x.upTo 0 = ⟨[], none⟩ := by
  simp [upTo]

theorem upTo_nothing : (⟨[], none⟩ : Delivery).upTo n = ⟨[], none⟩ := by
  simp [upTo]

theorem upTo_failure {k : IoKind} : (⟨[], some k⟩ : Delivery).upTo (n + 1) = ⟨[], some k⟩ := by
  simp [upTo]

theorem upTo_after : (x.after bytes).upTo n = (x.upTo (n - bytes.length)).after (bytes.take n) := by
  have hlt : bytes.length + x.bytes.length < n ↔ x.bytes.length < n - bytes.length := by omega
  simp only [upTo, after, List.take_append, List.length_append, hlt]

end Delivery

/-- The bytes of a body up to its end or to the first read that fails. -/
def delivery : List ReadEvent → Delivery
  | [] => ⟨[], none⟩
  | .interrupted :: r => delivery r
  | .failed k :: _ => ⟨[], some k⟩
  | .chunk bytes :: r => if bytes.isEmpty then ⟨[], none⟩ else (delivery r).after bytes

theorem delivery_chunk {bytes : List UInt8} {r : List ReadEvent} (h : ¬bytes.isEmpty) :
    delivery (.chunk bytes :: r) = (delivery r).after bytes :=
  if_neg h

/-- A body is delivered as a whole if no read fails before it ends. -/
theorem delivered?_eq (body : List ReadEvent) :
    delivered? body = if (delivery body).failure? = none then some (delivery body).bytes else none := by
  fun_induction delivery body with
  | case1 => rfl
  | case2 r ih => exact ih
  | case3 => rfl
  | case4 bytes r hempty => exact if_pos hempty
  | case5 bytes r hnonempty ih =>
    rw [delivered?, if_neg hnonempty, ih, Delivery.after]
    split <;> rfl

theorem delivered?_eq_some_iff {body : List ReadEvent} {bytes : List UInt8} :
    delivered? body = some bytes ↔ (delivery body).failure? = none ∧ (delivery body).bytes = bytes := by
  rw [delivered?_eq]
  by_cases hwhole : (delivery body).failure? = none
  · rw [if_pos hwhole, Option.some.injEq]
    exact (and_iff_right hwhole).symm
  · rw [if_neg hwhole]
    exact iff_of_false nofun fun h => hwhole h.1

/-! ## Copies with a limit -/

/-- The pieces that a copy with a limit writes. -/
def pieces : Nat → List ReadEvent → List (List UInt8)
  | _, [] => []
  | 0, _ :: _ => []
  | n + 1, .interrupted :: r => pieces (n + 1) r
  | _ + 1, .failed _ :: _ => []
  | n + 1, .chunk bytes :: r =>
    if bytes.isEmpty then [] else bytes.take (n + 1) :: pieces (n + 1 - bytes.length) r

variable {name : String} {d d' : Disk} {limit n size : Nat} {body : List ReadEvent} {content taken : List UInt8}
  {x : Delivery}

theorem sub_length_take {bytes : List UInt8} : n - (bytes.take n).length = n - bytes.length := by
  rw [List.length_take]
  omega

theorem pieces_chunk {bytes : List UInt8} {r : List ReadEvent} (h : ¬bytes.isEmpty) :
    pieces (n + 1) (.chunk bytes :: r) =
      bytes.take (n + 1) :: pieces (n + 1 - (bytes.take (n + 1)).length) r := by
  rw [sub_length_take]
  exact if_neg h

/-- What is written is what the body delivers up to the limit. -/
theorem flatten_pieces : (pieces n body).flatten = ((delivery body).upTo n).bytes := by
  fun_induction pieces n body with
  | case1 => rw [delivery, Delivery.upTo_nothing, List.flatten_nil]
  | case2 => rw [Delivery.upTo_zero, List.flatten_nil]
  | case3 _ _ ih => exact ih
  | case4 _ k => rw [delivery, Delivery.upTo_failure, List.flatten_nil]
  | case5 n bytes r hempty => rw [delivery, if_pos hempty, Delivery.upTo_nothing, List.flatten_nil]
  | case6 n bytes r hnonempty ih =>
    rw [delivery_chunk hnonempty, Delivery.upTo_after, List.flatten_cons, ih]
    rfl

/-- On a disk where no call fails for reasons from outside, the bytes only have to fit into a file. -/
theorem takesAll_pieces_iff (hworks : d.Faultless) (hnew : d.content? .staging name = some []) :
    d.TakesAll name (pieces n body) ↔ min n (delivery body).bytes.length ≤ maxContentSize := by
  rw [hworks.takesAll_iff hnew (Nat.zero_le _), flatten_pieces, Delivery.upTo, List.length_take,
    List.length_nil, Nat.zero_add]

/-- What was delivered has been copied behind this content. -/
structure Copies (name : String) (content : List UInt8) (size : Nat) (x : Delivery)
    (out : Except IoKind Nat × Disk) : Prop where
  answer : out.1 = x.copied size
  held : out.2.content? .staging name = some (content ++ x.bytes)
  room : content.length + x.bytes.length ≤ maxContentSize
  written : out.2.sync.1 = .ok ()

namespace Copies

theorem nothing {failure? : Option IoKind} (hheld : d.content? .staging name = some content)
    (hroom : content.length ≤ maxContentSize) (hwritten : d.sync.1 = .ok ()) :
    Copies name content size ⟨[], failure?⟩ (Delivery.copied size ⟨[], failure?⟩, d) where
  answer := rfl
  held := by rw [List.append_nil, hheld]
  room := hroom
  written := hwritten

theorem step {out : Except IoKind Nat × Disk}
    (h : Copies name (content ++ taken) (size + taken.length) x out) :
    Copies name content size (x.after taken) out where
  answer := by
    rw [h.answer]
    simp only [Delivery.copied, Delivery.after, List.length_append, Nat.add_assoc]
  held := by rw [h.held, Delivery.after, List.append_assoc]
  room := by
    have hroom := h.room
    simp only [Delivery.after, List.length_append] at hroom ⊢
    omega
  written := h.written

end Copies

/-- A copy takes the first bytes that the body delivers, however they arrive. -/
theorem copyBody_copies (htakes : d.TakesAll name (pieces limit body))
    (hheld : d.content? .staging name = some content) (hroom : content.length ≤ maxContentSize) :
    Copies name content size ((delivery body).upTo limit) (copyBody name limit body size d) := by
  fun_induction copyBody name limit body size d generalizing content with
  | case1 limit size d =>
    rw [delivery, Delivery.upTo_nothing]
    rw [pieces] at htakes
    exact .nothing hheld hroom htakes
  | case2 event r size d =>
    rw [Delivery.upTo_zero]
    exact .nothing hheld hroom htakes
  | case3 _ _ _ _ ih => exact ih htakes hheld hroom
  | case4 _ k =>
    rw [delivery, Delivery.upTo_failure]
    exact .nothing hheld hroom htakes
  | case5 limit chunk r size d taken =>
    rename_i hempty
    have hnothing : chunk.isEmpty := isEmpty_take_succ.symm.trans hempty
    rw [pieces, if_pos hnothing] at htakes
    rw [delivery, if_pos hnothing, Delivery.upTo_nothing]
    exact .nothing hheld hroom htakes
  | case6 limit chunk r size d taken hnonempty k d' =>
    rename_i hfailed
    rw [pieces_chunk fun hempty => hnonempty (isEmpty_take_succ.trans hempty)] at htakes
    have happended : (d.append .staging name taken).1 = .ok () := htakes.1
    rw [hfailed] at happended
    cases happended
  | case7 limit chunk r size d taken hnonempty _ d' happended =>
    rename_i ih
    have hchunk : ¬chunk.isEmpty := fun hempty => hnonempty (isEmpty_take_succ.trans hempty)
    rw [pieces_chunk hchunk] at htakes
    obtain ⟨-, hrest⟩ := htakes
    rw [happended] at hrest
    obtain ⟨hwritten, hfits⟩ := append_ok hheld happended
    have hcopied := ih hrest hwritten (by rwa [List.length_append])
    rw [delivery_chunk hchunk, Delivery.upTo_after, ← sub_length_take]
    exact hcopied.step

/-! ## Reads that are made -/

/-- The bytes that a read yields. -/
def readBytes : ReadEvent → List UInt8
  | .chunk bytes => bytes
  | _ => []

/-- The reads up to so many bytes, the last of them cut off there. -/
def firstReads : Nat → List ReadEvent → List ReadEvent
  | _, [] => []
  | 0, _ :: _ => []
  | n + 1, .interrupted :: r => .interrupted :: firstReads (n + 1) r
  | _ + 1, .failed k :: _ => [.failed k]
  | n + 1, .chunk bytes :: r => .chunk (bytes.take (n + 1)) :: firstReads (n + 1 - bytes.length) r

theorem length_firstReads : ((firstReads n body).flatMap readBytes).length ≤ n := by
  fun_induction firstReads n body with
  | case1 => exact Nat.zero_le _
  | case2 => exact Nat.zero_le _
  | case3 _ _ ih => exact ih
  | case4 => exact Nat.zero_le _
  | case5 n bytes r ih =>
    rw [List.flatMap_cons, List.length_append, readBytes, List.length_take]
    omega

theorem copyBody_zero : copyBody name 0 body size d = (.ok size, d) := by
  cases body <;> rfl

/-- Where the limit is reached, nothing more is read. -/
theorem copyBody_firstReads (h : limit ≤ n) :
    copyBody name limit (firstReads n body) size d = copyBody name limit body size d := by
  fun_induction copyBody name limit body size d generalizing n with
  | case1 => rw [firstReads, copyBody]
  | case2 => exact copyBody_zero
  | case3 limit r size d ih =>
    obtain ⟨n, rfl⟩ := Nat.exists_eq_succ_of_ne_zero (Nat.ne_zero_of_lt h)
    rw [firstReads, copyBody, ih h]
  | case4 limit k =>
    obtain ⟨n, rfl⟩ := Nat.exists_eq_succ_of_ne_zero (Nat.ne_zero_of_lt h)
    rw [firstReads, copyBody]
  | case5 limit chunk r size d taken =>
    rename_i hempty
    obtain ⟨n, rfl⟩ := Nat.exists_eq_succ_of_ne_zero (Nat.ne_zero_of_lt h)
    simp only [firstReads, copyBody, List.take_take, Nat.min_eq_left h]
    exact if_pos hempty
  | case6 limit chunk r size d taken hnonempty k d' =>
    rename_i hfailed
    obtain ⟨n, rfl⟩ := Nat.exists_eq_succ_of_ne_zero (Nat.ne_zero_of_lt h)
    simp only [firstReads, copyBody, List.take_take, Nat.min_eq_left h]
    rw [if_neg hnonempty, hfailed]
  | case7 limit chunk r size d taken hnonempty _ d' happended =>
    rename_i ih
    obtain ⟨n, rfl⟩ := Nat.exists_eq_succ_of_ne_zero (Nat.ne_zero_of_lt h)
    have hleft : limit + 1 - taken.length ≤ n + 1 - chunk.length :=
      Nat.le_trans (Nat.le_of_eq sub_length_take) (Nat.sub_le_sub_right h _)
    simp only [firstReads, copyBody, List.take_take, Nat.min_eq_left h]
    rw [if_neg hnonempty, happended]
    exact ih hleft

/-! ## Copies within a bound -/

namespace Delivery

theorem copied_of_short (hshort : x.bytes.length < n) : (x.upTo n).copied 0 = x.copied 0 := by
  unfold upTo
  rw [List.take_of_length_le (Nat.le_of_lt hshort), if_pos hshort]

theorem copied_of_long (hlong : n ≤ x.bytes.length) : (x.upTo n).copied 0 = .ok n := by
  unfold upTo copied
  rw [if_neg (Nat.not_lt_of_le hlong), List.length_take_of_le hlong, Nat.zero_add]

end Delivery

variable {bound : UInt64}

/-- The answer of a copy with a limit, where more than so many bytes are too many. -/
def verdict (bound : UInt64) : Except IoKind Nat → Except Error Nat
  | .error k => .error (.ofIo k)
  | .ok size => if bound.toNat < size then .error (.validation "file exceeds maximum size") else .ok size

theorem copyBounded_eq (hnew : d.content? .staging name = some [])
    (htakes : d.TakesAll name (pieces (readLimit bound) body)) :
    (copyBounded bound name body d).1 = verdict bound (((delivery body).upTo (readLimit bound)).copied 0) ∧
      (copyBounded bound name body d).2.content? .staging name =
        some ((delivery body).bytes.take (readLimit bound)) ∧
      min (readLimit bound) (delivery body).bytes.length ≤ maxContentSize := by
  have hcopies : Copies name [] 0 ((delivery body).upTo (readLimit bound))
      (copyBody name (readLimit bound) body 0 d) := copyBody_copies htakes hnew (Nat.zero_le _)
  obtain ⟨hanswer, hheld, hroom, hwritten⟩ := hcopies
  have hfits : min (readLimit bound) (delivery body).bytes.length ≤ maxContentSize := by
    simpa only [Delivery.upTo, List.length_take, List.length_nil, Nat.zero_add] using hroom
  rw [← hanswer]
  unfold copyBounded
  split
  · rename_i hcopied
    rw [hcopied] at hheld ⊢
    exact ⟨rfl, hheld, hfits⟩
  · rename_i size d₁ hcopied
    rw [hcopied] at hheld hwritten ⊢
    rw [verdict]
    split
    · exact ⟨rfl, hheld, hfits⟩
    · split
      · rename_i hfailed
        rw [hfailed] at hwritten
        cases hwritten
      · rename_i hdone
        have hsame := (sync_changesOnly hdone).entries .staging name List.not_mem_nil
        exact ⟨rfl, (content?_congr hsame).trans hheld, hfits⟩

/-- Either bytes are within the bound and do not reach the limit, or the limit lets one more through. -/
theorem readLimit_cases (hfits : min (readLimit bound) n ≤ maxContentSize) :
    n ≤ bound.toNat ∧ n < readLimit bound ∨
      bound.toNat < n ∧ bound.toNat < maxSize ∧ readLimit bound = bound.toNat + 1 := by
  have hlimit : readLimit bound = min (bound.toNat + 1) maxSize := rfl
  have hsize : maxContentSize < maxSize := by decide
  omega

/-- What stays within the bound is copied as it is delivered, with the failure that it ends in. -/
theorem copyBounded_of_short (hnew : d.content? .staging name = some [])
    (htakes : d.TakesAll name (pieces (readLimit bound) body))
    (hshort : (delivery body).bytes.length ≤ bound.toNat) :
    (copyBounded bound name body d).1 = verdict bound ((delivery body).copied 0) ∧
      (copyBounded bound name body d).2.content? .staging name = some (delivery body).bytes := by
  obtain ⟨hanswer, hheld, hfits⟩ := copyBounded_eq hnew htakes
  rcases readLimit_cases hfits with ⟨-, hlt⟩ | ⟨hlong, -⟩
  · rw [hanswer, hheld, Delivery.copied_of_short hlt, List.take_of_length_le (Nat.le_of_lt hlt)]
    exact ⟨rfl, rfl⟩
  · exact absurd hshort (Nat.not_le_of_lt hlong)

/-- Where there is more, one byte more is written, and that is seen. -/
theorem copyBounded_of_long (hnew : d.content? .staging name = some [])
    (htakes : d.TakesAll name (pieces (readLimit bound) body))
    (hlong : bound.toNat < (delivery body).bytes.length) :
    (copyBounded bound name body d).1 = .error (.validation "file exceeds maximum size") := by
  obtain ⟨hanswer, -, hfits⟩ := copyBounded_eq hnew htakes
  rcases readLimit_cases hfits with ⟨hshort, -⟩ | ⟨-, -, hmore⟩
  · exact absurd hshort (Nat.not_le_of_lt hlong)
  · rw [hanswer, hmore, Delivery.copied_of_long hlong]
    exact if_pos (Nat.lt_succ_self _)

/-- No disk takes more than the largest bound. -/
theorem length_le_of_largest (hnew : d.content? .staging name = some [])
    (htakes : d.TakesAll name (pieces (readLimit bound) body)) (hlargest : bound.toNat = maxSize) :
    (delivery body).bytes.length ≤ bound.toNat := by
  obtain ⟨-, -, hfits⟩ := copyBounded_eq hnew htakes
  rcases readLimit_cases hfits with ⟨hshort, -⟩ | ⟨-, hsmaller, -⟩
  · exact hshort
  · exact absurd hlargest (Nat.ne_of_lt hsmaller)

/-- What a copy of a body of at most so many bytes answers, and what the file then holds. -/
structure CopiedWithin (bound : UInt64) (body : List ReadEvent) (answer : Except Error Nat)
    (held? : Option (List UInt8)) : Prop where
  failed : ∀ k, (delivery body).failure? = some k → (delivery body).bytes.length ≤ bound.toNat →
    answer = .error (.ofIo k)
  exceeded : bound.toNat < (delivery body).bytes.length →
    answer = .error (.validation "file exceeds maximum size")
  copied : ∀ bytes, delivered? body = some bytes → bytes.length ≤ bound.toNat →
    answer = .ok bytes.length ∧ held? = some bytes

theorem copiedWithin (hnew : d.content? .staging name = some [])
    (htakes : d.TakesAll name (pieces (readLimit bound) body)) :
    CopiedWithin bound body (copyBounded bound name body d).1
      ((copyBounded bound name body d).2.content? .staging name) where
  failed := by
    intro k hfailure hshort
    rw [(copyBounded_of_short hnew htakes hshort).1, Delivery.copied, hfailure]
    rfl
  exceeded := copyBounded_of_long hnew htakes
  copied := by
    intro bytes hwhole hshort
    obtain ⟨hfailure, rfl⟩ := delivered?_eq_some_iff.mp hwhole
    obtain ⟨hanswer, hheld⟩ := copyBounded_of_short hnew htakes hshort
    rw [hanswer, hheld, Delivery.copied, hfailure, Nat.zero_add]
    exact ⟨if_neg (Nat.not_lt_of_le hshort), rfl⟩

theorem copyBounded_firstReads :
    copyBounded bound name (firstReads (bound.toNat + 1) body) d = copyBounded bound name body d := by
  have hlimit : readLimit bound ≤ bound.toNat + 1 := Nat.min_le_left _ _
  unfold copyBounded
  rw [copyBody_firstReads hlimit]

/-- A copy into a new file, on a disk that takes what is written, fails as reading does if that happens within
the bound, refuses every other body of more bytes than the bound and copies all that are left.  It reads one
byte more than the bound at most, it does not matter in which pieces the bytes arrive, and the largest bound
is no bound.

No disk takes more than the `maxContentSize` bytes that a file has room for; up to there, it is enough that no
call fails for reasons from outside (`takesAll_pieces_iff`). -/
theorem size_ceiling_is_exact (hnew : d.content? .staging name = some []) (bound : UInt64)
    (body : List ReadEvent) (htakes : d.TakesAll name (pieces (readLimit bound) body)) :
    CopiedWithin bound body (copyBounded bound name body d).1
      ((copyBounded bound name body d).2.content? .staging name) ∧
    (((firstReads (bound.toNat + 1) body).flatMap readBytes).length ≤ bound.toNat + 1 ∧
      copyBounded bound name (firstReads (bound.toNat + 1) body) d = copyBounded bound name body d) ∧
    (∀ other, delivery other = delivery body → d.TakesAll name (pieces (readLimit bound) other) →
      (copyBounded bound name other d).1 = (copyBounded bound name body d).1 ∧
        (copyBounded bound name other d).2.content? .staging name =
          (copyBounded bound name body d).2.content? .staging name) ∧
    (bound.toNat = maxSize → 0 < readLimit bound ∧
      (∀ k, (delivery body).failure? = some k → (copyBounded bound name body d).1 = .error (.ofIo k)) ∧
      ∀ bytes, delivered? body = some bytes → (copyBounded bound name body d).1 = .ok bytes.length ∧
        (copyBounded bound name body d).2.content? .staging name = some bytes) := by
  have hwithin := copiedWithin hnew htakes
  refine ⟨hwithin, ⟨length_firstReads, copyBounded_firstReads⟩, ?_, ?_⟩
  · intro other hsame htakes'
    obtain ⟨hanswer, hheld, -⟩ := copyBounded_eq hnew htakes
    obtain ⟨hanswer', hheld', -⟩ := copyBounded_eq hnew htakes'
    rw [hanswer, hheld, hanswer', hheld', hsame]
    exact ⟨rfl, rfl⟩
  · intro hlargest
    have hshort := length_le_of_largest hnew htakes hlargest
    refine ⟨Nat.lt_min.mpr ⟨Nat.succ_pos _, by decide⟩, fun k hfailure => ?_, fun bytes hwhole => ?_⟩
    · exact hwithin.failed k hfailure hshort
    · refine hwithin.copied bytes hwhole ?_
      rwa [← (delivered?_eq_some_iff.mp hwhole).2]

/-- An empty file that has been staged, in a place where no call fails. -/
def newFile : Disk where
  staging := some (Dict.empty.insert "a.part" (.file []))
  storage := some .empty

/-- Three bytes in two pieces, and then the connection is lost. -/
def brokenBody : List ReadEvent :=
  [.chunk [1, 2], .interrupted, .chunk [3], .failed .connectionReset]

/-- With a bound of two bytes the lost connection is not seen any more, with a bound of three it is.  If it is
not lost, the bytes before it are a body that the largest bound lets through. -/
theorem size_ceiling_of_brokenBody :
    newFile.content? .staging "a.part" = some [] ∧
      newFile.TakesAll "a.part" (pieces (readLimit 2) brokenBody) ∧
      (copyBounded 2 "a.part" brokenBody newFile).1 = .error (.validation "file exceeds maximum size") ∧
      newFile.TakesAll "a.part" (pieces (readLimit 3) brokenBody) ∧
      (copyBounded 3 "a.part" brokenBody newFile).1 = .error (.ofIo .connectionReset) ∧
      newFile.TakesAll "a.part" (pieces (readLimit 0xffffffffffffffff) (brokenBody.take 3)) ∧
      (copyBounded 0xffffffffffffffff "a.part" (brokenBody.take 3) newFile).1 = .ok 3 ∧
      (copyBounded 0xffffffffffffffff "a.part" (brokenBody.take 3) newFile).2.content? .staging "a.part" =
        some [1, 2, 3] := by
  have hnew : newFile.content? .staging "a.part" = some [] := by decide
  have hworks : newFile.Faultless := fun _ => rfl
  have htwo : newFile.TakesAll "a.part" (pieces (readLimit 2) brokenBody) :=
    (takesAll_pieces_iff hworks hnew).mpr (by decide)
  have hthree : newFile.TakesAll "a.part" (pieces (readLimit 3) brokenBody) :=
    (takesAll_pieces_iff hworks hnew).mpr (by decide)
  have hlargest : newFile.TakesAll "a.part" (pieces (readLimit 0xffffffffffffffff) (brokenBody.take 3)) :=
    (takesAll_pieces_iff hworks hnew).mpr (by decide)
  obtain ⟨hwithin, -⟩ := size_ceiling_is_exact hnew 2 brokenBody htwo
  obtain ⟨hwithin', -⟩ := size_ceiling_is_exact hnew 3 brokenBody hthree
  obtain ⟨-, -, -, hunbounded⟩ := size_ceiling_is_exact hnew 0xffffffffffffffff (brokenBody.take 3) hlargest
  obtain ⟨-, -, hall⟩ := hunbounded rfl
  exact ⟨hnew, htwo, hwithin.exceeded (by decide), hthree, hwithin'.failed .connectionReset rfl (by decide),
    hlargest, hall [1, 2, 3] rfl⟩

end Upload

end HttpMediation
