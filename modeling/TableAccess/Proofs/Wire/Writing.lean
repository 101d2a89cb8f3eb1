import TableAccess.Proofs.Wire.Arrays
import TableAccess.Wire.Write

/-!
What is put out of a parameter.

Behind what a buffer holds are put the bytes of the value, and nothing when it is refused. Only an
array can be refused in the middle: then some of its frame is left behind what the buffer held.
-/

set_option autoImplicit false
set_option relaxedAutoImplicit false

namespace TableAccess.Wire

open Output (put lift overwrite position)

/-! ### Steps -/

namespace Output

variable {α β : Type} {a : Output α} {f : α → Output β} {out out' : List UInt8}

theorem bind_of_ok {x : α} (h : a out = .ok x out') : (a >>= f) out = f x out' := by
  show EStateM.bind a f out = _
  rw [EStateM.bind, h]

theorem put_eq (bytes out : List UInt8) : put bytes out = .ok () (out ++ bytes) := rfl

theorem position_eq (out : List UInt8) : position out = .ok out.length out := rfl

theorem bind_of_error {e : EncodeError} (h : a out = .error e out') :
    (a >>= f) out = .error e out' := by
  show EStateM.bind a f out = _
  rw [EStateM.bind, h]

/-- As many bytes as there were take their place, whatever is in front of them and behind. -/
theorem overwrite_eq {old new : List UInt8} (same : old.length = new.length)
    (front rest : List UInt8) :
    overwrite front.length new (front ++ (old ++ rest)) = .ok () (front ++ (new ++ rest)) := by
  have behind : (front ++ (old ++ rest)).drop (front.length + new.length) = rest := by
    rw [← List.drop_drop, List.drop_left, ← same, List.drop_left]
  show EStateM.Result.ok () (_ ++ _ ++ _) = _
  rw [behind, List.take_left, List.append_assoc]

/-- Puts the bytes out, or nothing if there is an error in place of them. -/
def Puts (a : Output Unit) (image : Except EncodeError (List UInt8)) : Prop :=
  ∀ out, a out = match image with
    | .ok bytes => .ok () (out ++ bytes)
    | .error e => .error e out

theorem puts_put (bytes : List UInt8) : Puts (put bytes) (.ok bytes) := fun _ => rfl

theorem puts_throw (e : EncodeError) : Puts (throw e) (.error e) := fun _ => rfl

theorem Puts.then {a b : Output Unit} {bytes bytes' : List UInt8} (first : Puts a (.ok bytes))
    (last : Puts b (.ok bytes')) : Puts (do a; b) (.ok (bytes ++ bytes')) := by
  intro out
  rw [bind_of_ok (first out), last]
  exact congrArg _ (List.append_assoc out bytes bytes')

/-- What is checked first fails without output. -/
theorem puts_lift_error (e : EncodeError) (f : α → Output Unit) :
    Puts (lift (.error e) >>= f) (.error e) := fun _ => rfl

theorem puts_lift_ok {x : α} {f : α → Output Unit} {image : Except EncodeError (List UInt8)}
    (puts : Puts (f x) image) : Puts (lift (.ok x) >>= f) image := puts

theorem puts_forM (image : α → List UInt8) (xs : List α) :
    Puts (xs.forM fun x => put (image x)) (.ok (xs.flatMap image)) := by
  induction xs with
  | nil => exact fun out => congrArg _ (List.append_nil out).symm
  | cons x xs ih => exact (puts_put (image x)).then ih

end Output

open Output

/-! ### Scalars -/

theorem puts_writeInteger (range : IntegerRange) (width : Nat) (n : Int) :
    Puts (writeInteger range width n) (integerImage range width n) := by
  rw [writeInteger, integerImage]
  cases range.check n with
  | error e => exact puts_lift_error (.range e) _
  | ok n => exact puts_lift_ok (puts_put (bytesOfInt width n))

theorem puts_groups (g : Groups) : Puts g.write (.ok g.bytes) := by
  simp only [Groups.bytes, List.append_assoc]
  exact (puts_put _).then ((puts_put _).then ((puts_put _).then ((puts_put _).then
    (puts_forM (bytesOfNat 2) g.digits))))

theorem puts_intervalTime (i : Interval) : Puts i.writeTime i.timeImage := by
  rw [Interval.timeImage, Interval.writeTime]
  split
  · exact puts_put _
  · exact puts_throw _

theorem puts_zonedTimestamp (t : ZonedTimestamp) : Puts t.write t.image := by
  rw [ZonedTimestamp.image, ZonedTimestamp.write]
  cases t.toUtc? with
  | none => exact puts_throw _
  | some utc => exact puts_put _

theorem puts_interval (i : Interval) : Puts i.write (.ok i.image) := by
  rw [Interval.image, List.append_assoc]
  exact (puts_put _).then ((puts_put _).then (puts_put _))

theorem puts_payload (s : Scalar) (x : s.kind.Payload) : Puts (s.writePayload x) (s.image x) := by
  cases s with
  | bool | int2 | int4 | int8 | float4 | float8 | bytea | date | timestamp | uuid =>
    exact puts_put _
  | char => exact puts_writeInteger _ _ _
  | oid => exact puts_writeInteger _ _ _
  | numeric => exact puts_groups _
  | time => exact puts_intervalTime x
  | timetz => exact (puts_put _).then (puts_put _)
  | timestamptz => exact puts_zonedTimestamp x
  | interval => exact puts_interval x

private theorem puts_asInterval (v : Value) :
    Puts (do let i ← lift (convert .interval v); i.writeTime)
      (match convert .interval v with
        | .error e => .error e
        | .ok i => i.timeImage) := by
  cases convert .interval v with
  | error e => exact puts_lift_error e _
  | ok i => exact puts_lift_ok (puts_intervalTime i)

theorem puts_time (v : Value) : Puts (writeTime v) (timeImage v) := by
  have converted := puts_asInterval v
  cases v with
  | null => exact converted
  | list vs e => exact converted
  | scalar k x =>
    cases k with
    | time =>
      cases x with
      | none => exact converted
      | some t => exact puts_put _
    | zonedClock =>
      cases x with
      | none => exact converted
      | some t => exact puts_put _
    | _ => exact converted

theorem puts_scalar (s : Scalar) (v : Value) : Puts (s.write v) (s.encode v) := by
  rw [Scalar.write, Scalar.encode]
  split
  · exact puts_time v
  · cases convert s.kind v with
    | error e => exact puts_lift_error e _
    | ok x => exact puts_lift_ok (puts_payload s x)

private theorem puts_ofText (t : SqlType) (s : String) :
    Puts (writeText t (.text s)) (encodeText t (.text s)) := by
  show Puts (do
    if versioned.contains t.label.name then put [1]
    put (Text.utf8Bytes s.toList)) (.ok (textImage t.label s))
  rw [textImage]
  split
  · exact (puts_put [1]).then (puts_put _)
  · exact puts_put _

theorem puts_text (t : SqlType) (v : Value) : Puts (writeText t v) (encodeText t v) := by
  cases v with
  | null => exact puts_throw _
  | list vs e => exact puts_throw _
  | scalar k x =>
    cases k with
    | varchar =>
      cases x with
      | none => exact puts_throw _
      | some s => exact puts_ofText t s
    | _ => exact puts_throw _

/-! ### Parameters -/

/-- Puts the bytes of a parameter out, none for a null. In front of an error some bytes may have
been put out. -/
structure Writes (a : Output Bool) (image : Except EncodeError (Option (List UInt8))) : Prop where
  written : ∀ bytes, image = .ok bytes → ∀ out, a out = .ok bytes.isNone (out ++ bytes.getD [])
  refused : ∀ e, image = .error e → ∀ out, ∃ part, a out = .error e (out ++ part)

/-- A value that is no null, put out or refused as a whole. -/
theorem Output.Puts.whole {a : Output Unit} {image : Except EncodeError (List UInt8)}
    (puts : Puts a image) (out : List UInt8) :
    (do a; return false : Output Bool) out = match image.map some with
      | .ok bytes => .ok bytes.isNone (out ++ bytes.getD [])
      | .error e => .error e out := by
  have put := puts out
  cases image with
  | ok bytes => rw [bind_of_ok put]; rfl
  | error e => rw [bind_of_error put]; rfl

theorem Output.Puts.writes {a : Output Unit} {image : Except EncodeError (List UInt8)}
    (puts : Puts a image) : Writes (do a; return false) (image.map some) := by
  constructor
  · intro bytes encoded out
    rw [puts.whole, encoded]
  · intro e refused out
    refine ⟨[], ?_⟩
    rw [puts.whole, refused, List.append_nil]

/-! ### Elements -/

theorem length_word (m n : Nat) : (bytesOfNat 4 m).length = (bytesOfNat 4 n).length := by
  rw [length_bytesOfNat, length_bytesOfNat]

section Elements

variable {write : Value → Output Bool} {encode : Value → Except EncodeError (Option (List UInt8))}

/-- An element is put out behind its length, which is known only then. -/
theorem writeElement_eq {a : Output Bool} {image : Option (List UInt8)}
    (written : ∀ out, a out = .ok image.isNone (out ++ image.getD [])) (out : List UInt8) :
    writeElement a out =
      if frameLimit ≤ (image.getD []).length then
        .error .tooLarge (out ++ (bytesOfNat 4 0 ++ image.getD []))
      else .ok image.isNone (out ++ elementImage image) := by
  have behind := written (out ++ bytesOfNat 4 0)
  rw [List.append_assoc] at behind
  cases image with
  | none =>
    have short : ¬ frameLimit ≤ 0 := by decide
    have negative : (bytesOfNat 4 0).length = (bytesOfInt 4 (-1)).length := length_word _ _
    have null := overwrite_eq negative out []
    rw [Option.getD_none, List.length_nil, if_neg short]
    rw [Option.getD_none] at behind
    show (a >>= _) (out ++ bytesOfNat 4 0) = _
    rw [bind_of_ok behind]
    show (overwrite out.length (bytesOfInt 4 (-1)) >>= _) (out ++ (bytesOfNat 4 0 ++ [])) = _
    rw [bind_of_ok null, List.append_nil]
    rfl
  | some bytes =>
    have length : (out ++ (bytesOfNat 4 0 ++ bytes)).length - out.length - 4 = bytes.length := by
      rw [List.length_append, List.length_append, length_bytesOfNat]
      omega
    rw [Option.getD_some] at behind ⊢
    show (a >>= _) (out ++ bytesOfNat 4 0) = _
    rw [bind_of_ok behind]
    show (if frameLimit ≤ (out ++ (bytesOfNat 4 0 ++ bytes)).length - out.length - 4 then
      _ else _ : Output Bool) (out ++ (bytesOfNat 4 0 ++ bytes)) = _
    rw [length]
    split
    · rfl
    · show (overwrite out.length (bytesOfNat 4 _) >>= _) (out ++ (bytesOfNat 4 0 ++ bytes)) = _
      rw [bind_of_ok (overwrite_eq (length_word _ _) out bytes)]
      rfl

variable (writes : ∀ v, Writes (write v) (encode v))

include writes

theorem writeElements_eq {vs : List Value} {images : Images}
    (encoded : encodeAll encode vs = .ok images) (out : List UInt8) :
    writeElements write vs out =
      .ok (images.any Option.isNone) (out ++ images.flatMap elementImage) := by
  have pairs := encodeAll_eq_ok_iff.mp encoded
  clear encoded
  induction pairs generalizing out with
  | nil =>
    rw [List.flatMap_nil, List.append_nil]
    rfl
  | @cons v image vs images first _ ih =>
    obtain ⟨here, short⟩ := first
    have element := writeElement_eq ((writes v).written image here) out
    rw [if_neg (Nat.not_le_of_lt short)] at element
    rw [writeElements, bind_of_ok element, bind_of_ok (ih _), List.append_assoc]
    rfl

/-- An element that fails or is too long is the last thing of which anything is put out. -/
theorem writeElements_refused {vs : List Value} {e : EncodeError}
    (refused : encodeAll encode vs = .error e) (out : List UInt8) :
    ∃ part, writeElements write vs out = .error e (out ++ part) := by
  induction vs generalizing out with
  | nil => cases refused
  | cons v vs ih =>
    rw [encodeAll] at refused
    cases first : encode v with
    | error e' =>
      rw [first] at refused
      cases refused
      obtain ⟨part, failed⟩ := (writes v).refused e first (out ++ bytesOfNat 4 0)
      have element : writeElement (write v) out = .error e (out ++ (bytesOfNat 4 0 ++ part)) := by
        show (write v >>= _) (out ++ bytesOfNat 4 0) = _
        rw [bind_of_error failed, List.append_assoc]
      exact ⟨_, bind_of_error element⟩
    | ok image =>
      have element := writeElement_eq ((writes v).written image first) out
      simp only [first] at refused
      split at refused
      · next long =>
        cases refused
        rw [if_pos long] at element
        exact ⟨_, bind_of_error element⟩
      · next short =>
        rw [if_neg short] at element
        cases others : encodeAll encode vs with
        | ok images => rw [others] at refused; cases refused
        | error e' =>
          rw [others] at refused
          cases refused
          obtain ⟨part, failed⟩ := ih others (out ++ elementImage image)
          refine ⟨elementImage image ++ part, ?_⟩
          show (writeElement (write v) >>= _) out = _
          rw [bind_of_ok element]
          show (writeElements write vs >>= _) (out ++ elementImage image) = _
          rw [bind_of_error failed, List.append_assoc]

end Elements

/-! ### Arrays -/

/-- The words between the mark for nulls and the elements. -/
def frameHead (memberOid length lowest : Nat) : List UInt8 :=
  bytesOfNat 4 memberOid ++ (bytesOfNat 4 length ++ bytesOfNat 4 lowest)

section Arrays

variable (memberOid lowest : Nat) {write : Value → Output Bool}
  {encode : Value → Except EncodeError (Option (List UInt8))} {vs : List Value}

/-- What is put out in front of the elements, the mark for nulls a zero still. -/
theorem writeArray_eq (write : Value → Output Bool) (few : ¬ frameLimit ≤ vs.length)
    (out : List UInt8) :
    writeArray memberOid lowest write vs out =
      (do
        let null ← writeElements write vs
        overwrite (out ++ bytesOfNat 4 1).length (bytesOfNat 4 (if null then 1 else 0)) :
          Output Unit)
        (out ++ bytesOfNat 4 1 ++ (bytesOfNat 4 0 ++ frameHead memberOid vs.length lowest)) := by
  have mark : (out ++ bytesOfNat 4 0).length = (out ++ bytesOfNat 4 1).length := by
    rw [List.length_append, List.length_append, length_word 0 1]
  have dimensions := overwrite_eq (length_word 0 1) out
    (bytesOfNat 4 0 ++ frameHead memberOid vs.length lowest)
  rw [frameHead] at dimensions ⊢
  simp only [writeArray, if_neg few]
  rw [bind_of_ok (position_eq _), bind_of_ok (put_eq _ _), bind_of_ok (position_eq _),
    bind_of_ok (put_eq _ _), bind_of_ok (put_eq _ _), bind_of_ok (put_eq _ _),
    bind_of_ok (put_eq _ _), mark]
  simp only [List.append_assoc]
  rw [bind_of_ok dimensions]

variable (writes : ∀ v, Writes (write v) (encode v))

include writes

theorem writeArray_written (few : ¬ frameLimit ≤ vs.length) {images : Images}
    (encoded : encodeAll encode vs = .ok images) (out : List UInt8) :
    writeArray memberOid lowest write vs out =
      .ok () (out ++ arrayImage memberOid lowest images) := by
  have count := (encodeAll_eq_ok_iff.mp encoded).length_eq
  have elements := writeElements_eq writes encoded (out ++ bytesOfNat 4 1 ++
    (bytesOfNat 4 0 ++ frameHead memberOid vs.length lowest))
  rw [List.append_assoc (out ++ bytesOfNat 4 1), List.append_assoc (bytesOfNat 4 0)] at elements
  rw [writeArray_eq memberOid lowest write few, bind_of_ok elements,
    overwrite_eq (length_word _ _), arrayImage, frameHead, count]
  simp only [List.append_assoc]

theorem writeArray_refused (few : ¬ frameLimit ≤ vs.length) {e : EncodeError}
    (refused : encodeAll encode vs = .error e) (out : List UInt8) :
    ∃ part, writeArray memberOid lowest write vs out = .error e (out ++ part) := by
  obtain ⟨part, failed⟩ := writeElements_refused writes refused (out ++ bytesOfNat 4 1 ++
    (bytesOfNat 4 0 ++ frameHead memberOid vs.length lowest))
  rw [writeArray_eq memberOid lowest write few, bind_of_error failed]
  simp only [List.append_assoc]
  exact ⟨_, rfl⟩

/-- An array is put out with its frame. Too many elements are refused before that, and an element
that fails leaves what was put out in front of it. -/
theorem writes_array :
    Writes (do writeArray memberOid lowest write vs; return false)
      (if frameLimit ≤ vs.length then .error .tooLarge
        else (encodeAll encode vs).map fun images =>
          some (arrayImage memberOid lowest images)) := by
  by_cases many : frameLimit ≤ vs.length
  · have refused (out : List UInt8) :
        writeArray memberOid lowest write vs out = .error .tooLarge out := by
      rw [writeArray, if_pos many]
      rfl
    rw [if_pos many]
    constructor
    · intro bytes written
      cases written
    · intro e failed out
      cases failed
      exact ⟨[], by rw [bind_of_error (refused out), List.append_nil]⟩
  · rw [if_neg many]
    cases encoded : encodeAll encode vs with
    | ok images =>
      constructor
      · intro bytes written out
        cases written
        rw [bind_of_ok (writeArray_written memberOid lowest writes many encoded out)]
        rfl
      · intro e failed
        cases failed
    | error e =>
      constructor
      · intro bytes written
        cases written
      · intro e' failed out
        cases failed
        obtain ⟨part, array⟩ := writeArray_refused memberOid lowest writes many encoded out
        exact ⟨part, bind_of_error array⟩

end Arrays

/-! ### Parameters of all types -/

theorem write_scalar_eq (s : Scalar) (v : Value) (out : List UInt8) :
    write (.scalar s) v out = match encode (.scalar s) v with
      | .ok image => .ok image.isNone (out ++ image.getD [])
      | .error e => .error e out := by
  rw [write, encode]
  cases v.isNull with
  | true =>
    rw [if_pos rfl, if_pos rfl]
    exact congrArg _ (List.append_nil out).symm
  | false =>
    rw [if_neg Bool.false_ne_true, if_neg Bool.false_ne_true]
    exact (puts_scalar s v).whole out

theorem write_of_encode {s : Scalar} {v : Value} {image : Option (List UInt8)}
    (encoded : encode (.scalar s) v = .ok image) (out : List UInt8) :
    write (.scalar s) v out = .ok image.isNone (out ++ image.getD []) := by
  rw [write_scalar_eq, encoded]

theorem write_of_refuse {s : Scalar} {v : Value} {e : EncodeError}
    (refused : encode (.scalar s) v = .error e) (out : List UInt8) :
    write (.scalar s) v out = .error e out := by
  rw [write_scalar_eq, refused]

theorem Writes.unless_null {a : Output Bool} {image : Except EncodeError (Option (List UInt8))}
    (writes : Writes a image) (v : Value) :
    Writes (if v.isNull then return true else a) (if v.isNull then .ok none else image) := by
  cases v.isNull with
  | true =>
    constructor
    · intro bytes written out
      cases written
      exact congrArg _ (List.append_nil out).symm
    · intro e failed
      cases failed
  | false => exact writes

/-- Every value that can be a parameter is put out as its bytes behind what the buffer holds, and
whatever refuses another value leaves all of that there. -/
theorem writes_write (t : SqlType) (v : Value) : Writes (write t v) (encode t v) := by
  induction t generalizing v with
  | scalar s => exact (puts_scalar s v).writes.unless_null v
  | text label => exact (puts_text _ v).writes.unless_null v
  | other label => exact (puts_text _ v).writes.unless_null v
  | array label lowest member ih =>
    have single := (puts_text (.array label lowest member) v).writes.unless_null v
    cases v with
    | list vs e =>
      cases vs with
      | none => exact single
      | some vs => exact (writes_array member.oid lowest ih).unless_null (.list (some vs) e)
    | _ => exact single

end TableAccess.Wire
