/-
**Tokens that are no value.**

* `Ty.readsInteger`: the types whose values are read by way of integers;
* `Value.Misread`: the ways in which tokens are no value of a type;
* `Value.misread_of_ofTokens`: there are no others. Tokens are refused, unless an integer in one of
  them has too many digits to be read at all.
-/

import Argline.Proofs.Range.Reading
import Argline.Proofs.Value.Tokens

namespace Argline

/-- Is a value of a type read by way of integers? -/
def Ty.readsInteger : Ty → Bool
  | .scalar kind => kind ∈ [Scalar.int, .bigInt, .range]
  | .array element => element.readsInteger

/-- A text that is too long to be read as an integer is too long wherever one is read. -/
theorem isOverlong_of_readInteger {token : String} {count : Nat}
    (long : readInteger token = .error (.tooLong count)) : IsOverlong token count := by
  rw [← String.ofList_toList (s := token), readInteger_eq_tooLong_iff] at long
  obtain ⟨digits, value, numeral, length, beyond⟩ := long
  exact ⟨_, .last (Piece.separatorFree_of_point_notMem numeral.point_notMem), _,
    List.mem_singleton_self _, digits, value, numeral, length, beyond⟩

namespace Value

/-- The ways in which tokens are no value of a type. -/
inductive Misread (type : Ty) (tokens : List String) : Halt Rejection → Prop
  /-- A value is read, and tokens are left behind it. -/
  | left {shown : List String} (within : shown ⊆ tokens) :
    Misread type tokens (.refused (.unrecognized shown none))
  /-- There is no token. -/
  | absent {expected : Ty} : Misread type tokens (.refused (.missingValue expected))
  /-- There is no item. -/
  | empty {element : Ty} : Misread type tokens (.refused (.missingElements element))
  /-- A token is none of what is expected. -/
  | unreadable {expected : Unreadable} {token : String} (member : token ∈ tokens) :
    Misread type tokens (.refused (.unreadable expected (.token token)))
  /-- The tokens are no literal of a range. -/
  | range {shown : List String} {fault : RangeFault} :
    Misread type tokens (.refused (.range shown fault))
  /-- An integer in one of the tokens has too many digits. -/
  | overlong {token : String} {count : Nat} (reads : type.readsInteger = true)
    (member : token ∈ tokens) (long : IsOverlong token count) :
    Misread type tokens (.broken (.integerTooLong count))

theorem Misread.mono {type : Ty} {some all : List String} {halt : Halt Rejection}
    (misread : Misread type some halt) (subset : some ⊆ all) : Misread type all halt := by
  cases misread with
  | left within => exact .left (List.Subset.trans within subset)
  | absent => exact .absent
  | empty => exact .empty
  | unreadable member => exact .unreadable (subset member)
  | range => exact .range
  | overlong reads member long => exact .overlong reads (subset member) long

/-- Items are no values of an element type in the way in which an array of them is none. -/
theorem Misread.array {element : Ty} {tokens : List String} {halt : Halt Rejection}
    (misread : Misread element tokens halt) : Misread (.array element) tokens halt := by
  cases misread with
  | left within => exact .left within
  | absent => exact .absent
  | empty => exact .empty
  | unreadable member => exact .unreadable member
  | range => exact .range
  | overlong reads member long => exact .overlong reads member long

/-! ### One token -/

theorem misread_of_failsOn {type : Ty} {tokens : List String} {halt : Halt Rejection}
    (reads : type.readsInteger = true) (fails : Range.FailsOn tokens halt) :
    Misread type tokens halt := by
  rcases fails with ⟨shown, fault, rfl⟩ | ⟨token, member, count, long, rfl⟩
  · exact .range
  · exact .overlong reads member long

variable {type : Ty} {label token : String} {halt : Halt Rejection}

theorem misread_of_integerOfToken (reads : type.readsInteger = true)
    (failed : integerOfToken label token = .error halt) : Misread type [token] halt := by
  unfold integerOfToken at failed
  split at failed
  · cases failed
  · next fault unread =>
    cases fault with
    | malformed =>
      cases failed
      exact .unreadable (List.mem_singleton_self token)
    | tooLong count =>
      cases failed
      exact .overlong reads (List.mem_singleton_self token) (isOverlong_of_readInteger unread)

theorem misread_of_orUnreadable {expected : Unreadable} {found : Option Value}
    (failed : orUnreadable expected token found = .error halt) : Misread type [token] halt := by
  unfold orUnreadable at failed
  split at failed
  · cases failed
  · cases failed
    exact .unreadable (List.mem_singleton_self token)

/-- A token that is no value of a type. -/
theorem misread_of_ofToken (failed : ofToken type token = .error halt) :
    Misread type [token] halt := by
  cases type with
  | array element =>
    cases failed
    exact .unreadable (List.mem_singleton_self token)
  | scalar kind =>
    cases kind with
    | int =>
      rcases bind_eq_error_iff.mp (map_eq_error_iff.mp failed) with unread | ⟨number, _, outside⟩
      · exact misread_of_integerOfToken rfl unread
      · split at outside
        · cases outside
        · cases outside
          exact .unreadable (List.mem_singleton_self token)
    | bigInt => exact misread_of_integerOfToken rfl (map_eq_error_iff.mp failed)
    | range => exact misread_of_failsOn rfl (Range.refused_or_overlong (map_eq_error_iff.mp failed))
    | text => cases failed
    | _ => exact misread_of_orUnreadable failed

/-! ### Lists of tokens -/

/-- Reading one token fails at the first one. -/
theorem misread_of_readOne {tokens : List String}
    (failed : (readOne type (.ofTokens tokens)).1 = .error halt) : Misread type tokens halt := by
  cases tokens with
  | nil =>
    cases failed
    exact .absent
  | cons token rest => exact (misread_of_ofToken failed).mono (by simp)

/-- A value that is one token is read from it alone. -/
theorem read_singleton {type : Ty} (single : type.arity = .single) (token : String) :
    read type (.ofTokens [token]) =
      (ofToken type token, { Cursor.ofTokens [] with taken := [token] }) := by
  cases type with
  | array element => cases single
  | scalar kind =>
    cases kind with
    | bool => cases single
    | range => cases single
    | _ => rfl

theorem ofTokens_of_ofToken_error {type : Ty} {token : String} {halt : Halt Rejection}
    (single : type.arity = .single) (failed : ofToken type token = .error halt) :
    ofTokens type [token] = .error halt := by
  rw [ofTokens, read_singleton single, failed]

/-- Reading one item after another fails at one of the tokens. -/
theorem misread_of_readItems {element : Ty} {taken tokens : List String}
    (failed : (readItems element ⟨taken, tokens, fun _ => false⟩).1 = .error halt) :
    Misread element tokens halt := by
  induction tokens generalizing taken with
  | nil =>
    rw [readItems_of_atEnd rfl] at failed
    cases failed
  | cons token rest ih =>
    rw [readItems_of_next? rfl] at failed
    cases item : ofToken element token with
    | error cause =>
      rw [item] at failed
      cases failed
      exact (misread_of_ofToken item).mono (by simp)
    | ok value =>
      rw [item] at failed
      exact (ih (map_eq_error_iff.mp failed)).mono (List.subset_cons_self _ _)

/-- Reading stops within the tokens. -/
theorem remaining_readItems_subset {element : Ty} (taken tokens : List String) :
    (readItems element ⟨taken, tokens, fun _ => false⟩).2.remaining ⊆ tokens := by
  induction tokens generalizing taken with
  | nil =>
    rw [readItems_of_atEnd rfl]
    exact List.Subset.refl _
  | cons token rest ih =>
    rw [readItems_of_next? rfl]
    cases ofToken element token with
    | error cause => exact List.subset_cons_self _ _
    | ok value => exact List.Subset.trans (ih (token :: taken)) (List.subset_cons_self _ _)

/-- A literal ends within the tokens. -/
theorem remaining_readFrom_subset (assembly : Assembly) (consumed taken tokens : List String) :
    (Range.readFrom assembly consumed ⟨taken, tokens, fun _ => false⟩).2.remaining ⊆ tokens := by
  induction tokens generalizing assembly consumed taken with
  | nil =>
    rw [Range.readFrom_of_atEnd rfl]
    exact List.Subset.refl _
  | cons token rest ih =>
    by_cases complete : assembly.isComplete = true
    · rw [Range.readFrom, if_pos complete]
      exact List.Subset.refl _
    · rw [Range.readFrom_of_next? complete rfl]
      split
      · exact List.subset_cons_self _ _
      · exact List.subset_cons_self _ _
      · exact List.Subset.trans (ih _ _ _) (List.subset_cons_self _ _)

/-- Reading the value in front fails in one of these ways. -/
theorem misread_of_read {tokens : List String}
    (failed : (read type (.ofTokens tokens)).1 = .error halt) : Misread type tokens halt := by
  cases type with
  | array element =>
    rw [read, readArray] at failed
    split at failed
    · cases failed
      exact .empty
    · exact (misread_of_readItems (map_eq_error_iff.mp failed)).array
  | scalar kind =>
    cases kind with
    | bool =>
      rw [read, readBool] at failed
      split at failed
      · cases failed
      · split at failed <;> cases failed
    | range => exact misread_of_failsOn rfl (Range.failsOn_of_readFrom (map_eq_error_iff.mp failed))
    | _ => exact misread_of_readOne failed

/-- What is left behind a value is some of the tokens. -/
theorem remaining_read_subset (type : Ty) (tokens : List String) :
    (read type (.ofTokens tokens)).2.remaining ⊆ tokens := by
  cases type with
  | array element =>
    rw [read, readArray]
    split
    · exact List.Subset.refl _
    · exact remaining_readItems_subset _ _
  | scalar kind =>
    cases kind with
    | bool =>
      cases tokens with
      | nil => exact List.Subset.refl _
      | cons token rest =>
        cases found : boolOfToken? token with
        | none => simp [read, readBool, Cursor.ofTokens, Cursor.next?, found]
        | some truth => simp [read, readBool, Cursor.ofTokens, Cursor.next?, found]
    | range => exact remaining_readFrom_subset _ _ _ _
    | _ =>
      cases tokens with
      | nil => exact List.Subset.refl _
      | cons token rest => exact List.subset_cons_self _ _

/-- **Tokens that are no value of a type are refused**, unless an integer in one of them has too many
digits. -/
theorem misread_of_ofTokens {tokens : List String} (failed : ofTokens type tokens = .error halt) :
    Misread type tokens halt := by
  unfold ofTokens at failed
  split at failed
  · next cause last equal =>
    cases failed
    exact misread_of_read (congrArg Prod.fst equal)
  · next value last equal =>
    split at failed
    · cases failed
    · cases failed
      refine .left ?_
      rw [show last = (read type (.ofTokens tokens)).2 from (congrArg Prod.snd equal).symm]
      exact remaining_read_subset type tokens

end Value

end Argline
