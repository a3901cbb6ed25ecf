import Gdm.Library.Separated

/-!
# The password of the disk for the login

`pam_gdm` looks up the passwords that unlocked the disks, which the kernel keeps as one key, and
gives the last one to the modules behind it.  The key is a list of passwords with NULs between
them, and the call that reads it puts one more NUL behind it.
-/

namespace Gdm

/-- What `pam_sm_authenticate` returns. -/
inductive AuthenticateResult
  | success
  | authErr
  | authinfoUnavail
  deriving DecidableEq, Repr

/-- What the module meets: the key that is looked up, or `-1`, what can be read of a key, and
the return code of `pam_set_item`. -/
structure PamGdmSurroundings where
  haveKeyutils : Bool := true
  findKeyByTypeAndDesc : Int
  keyctlReadAlloc : Int → Option (List UInt8)
  pamSetItem : List UInt8 → Nat

/-- What the module has returned, and the item `PAM_AUTHTOK` if it has set it. -/
structure Authenticated where
  result : AuthenticateResult
  authtok : Option (List UInt8) := none
  deriving DecidableEq, Repr

/-! ## The module -/

/-- `strlen` of the string from this position on, none where it has no NUL. -/
def strlenAt (buffer : List UInt8) (i : Nat) : Option Nat :=
  (buffer.drop i).findIdx? (· = 0)

/-- The string from this position on. -/
def stringAt (buffer : List UInt8) (i : Nat) : Option (List UInt8) :=
  (strlenAt buffer i).map fun length => (buffer.drop i).take length

/-- The loop of `pam_sm_authenticate`, with `i` and `last_cached_password`. -/
def lastCachedPasswordFrom (cachedPasswords : List UInt8) (cachedPasswordsLength : Nat)
    (i last : Nat) : Option Nat :=
  if i < cachedPasswordsLength then
    match strlenAt cachedPasswords i with
    | none => none
    | some length =>
      lastCachedPasswordFrom cachedPasswords cachedPasswordsLength (i + length + 1) i
  else some last
termination_by cachedPasswordsLength - i

/-- `pam_sm_authenticate`.  There is no result where it reads behind the buffer. -/
def pamSmAuthenticate (around : PamGdmSurroundings) : Option Authenticated :=
  if around.haveKeyutils then
    let serial := around.findKeyByTypeAndDesc
    if serial = 0 then some { result := .authinfoUnavail }
    else
      match around.keyctlReadAlloc serial with
      | none => some { result := .authinfoUnavail }
      | some content => do
        let cachedPasswords := content ++ [0]
        let last ← lastCachedPasswordFrom cachedPasswords content.length 0 0
        let lastCachedPassword ← stringAt cachedPasswords last
        let r : Int := around.pamSetItem lastCachedPassword
        some {
          result := if r < 0 then .authErr else .success
          authtok := if r = 0 then some lastCachedPassword else none }
  else some { result := .authinfoUnavail }

/-! ## What is asked of it -/

/-- The last of the passwords, which have NULs between them. -/
def lastPassword (content : List UInt8) : List UInt8 :=
  (content.splitOn 0).getLast (List.splitOn_ne_nil 0 content)

/-- The key was found and read, and its last password is the item. -/
def PasswordReused (around : PamGdmSurroundings) (authtok : Option (List UInt8)) : Prop :=
  around.haveKeyutils ∧ 0 < around.findKeyByTypeAndDesc ∧
    ∃ content, around.keyctlReadAlloc around.findKeyByTypeAndDesc = some content ∧
      authtok = some (lastPassword content)

/-- The module reads within the buffer, and succeeds exactly if the password is reused. -/
def AuthenticatesRight (around : PamGdmSurroundings) : Prop :=
  ∃ authenticated, pamSmAuthenticate around = some authenticated ∧
    (authenticated.result = .success ↔ PasswordReused around authenticated.authtok)

/-- The last password is an empty one, and the one before it is not. -/
def EndsInEmptyPassword (content : List UInt8) : Prop :=
  ∃ front b, b ≠ 0 ∧ content = front ++ [b, 0]

/-! ## The loop -/

theorem strlenAt_append {front password rest : List UInt8} (hpassword : 0 ∉ password) :
    strlenAt (front ++ (password ++ 0 :: rest)) front.length = some password.length := by
  have hnone : password.findIdx? (· = 0) = none := by
    rw [List.findIdx?_eq_none_iff]
    intro b hb
    have hne : b ≠ 0 := fun heq => hpassword (heq ▸ hb)
    simpa using hne
  rw [strlenAt, List.drop_left, List.findIdx?_append, hnone]
  simp [List.findIdx?_cons]

theorem stringAt_append (front : List UInt8) {password rest : List UInt8}
    (hpassword : 0 ∉ password) :
    stringAt (front ++ (password ++ 0 :: rest)) front.length = some password := by
  rw [stringAt, strlenAt_append hpassword]
  simp

/-- The last one, or the one before it if that is empty. -/
def lastUsed : List UInt8 → List (List UInt8) → List UInt8
  | previous, [] => previous
  | previous, [last] => if last = [] then previous else last
  | _, password :: next :: rest => lastUsed password (next :: rest)

/-- From the start of a password on the loop finds the last one that is used. -/
theorem lastCachedPasswordFrom_spec (rest : List UInt8) :
    ∀ (front : List UInt8) (last : Nat) (previous : List UInt8),
      stringAt (front ++ rest ++ [0]) last = some previous →
      ∃ i, lastCachedPasswordFrom (front ++ rest ++ [0]) (front ++ rest).length front.length last =
          some i ∧
        stringAt (front ++ rest ++ [0]) i = some (lastUsed previous (rest.splitOn 0)) := by
  induction rest using Separated.induction (0 : UInt8) with
  | single password hpassword =>
    intro front last previous hprevious
    rw [Separated.splitOn_single hpassword, lastUsed]
    by_cases hempty : password = []
    · subst hempty
      refine ⟨last, ?_, by simpa using hprevious⟩
      rw [lastCachedPasswordFrom, if_neg (by simp)]
    · have hpos := List.length_pos_iff.mpr hempty
      refine ⟨front.length, ?_, ?_⟩
      · rw [lastCachedPasswordFrom, if_pos (by rw [List.length_append]; omega), List.append_assoc,
          strlenAt_append hpassword]
        simp only
        rw [lastCachedPasswordFrom, if_neg (by rw [List.length_append]; omega)]
      · rw [List.append_assoc, stringAt_append _ hpassword, if_neg hempty]
  | cons password rest hpassword ih =>
    intro front last previous _
    have hsplit : front ++ (password ++ 0 :: rest) = (front ++ password ++ [0]) ++ rest := by simp
    have hstart : stringAt ((front ++ password ++ [0]) ++ rest ++ [0]) front.length =
        some password := by
      have hbuffer : (front ++ password ++ [0]) ++ rest ++ [0] =
          front ++ (password ++ 0 :: (rest ++ [0])) := by simp
      rw [hbuffer, stringAt_append _ hpassword]
    obtain ⟨i, hloop, hstring⟩ := ih (front ++ password ++ [0]) front.length password hstart
    rw [hsplit]
    refine ⟨i, ?_, ?_⟩
    · have hbuffer : (front ++ password ++ [0]) ++ rest ++ [0] =
          front ++ (password ++ 0 :: (rest ++ [0])) := by simp
      have hlength : (front ++ password ++ [0]).length = front.length + password.length + 1 := by
        simp [Nat.add_assoc]
      rw [lastCachedPasswordFrom, if_pos (by simp only [List.length_append]; simp; omega)]
      rw [hbuffer, strlenAt_append hpassword, ← hbuffer]
      simpa only [hlength] using hloop
    · rw [hstring, Separated.splitOn_field hpassword]
      obtain ⟨next, others, hnext⟩ := List.exists_cons_of_ne_nil (List.splitOn_ne_nil 0 rest)
      rw [hnext, lastUsed]

theorem not_endsInEmptyPassword_of_length {content : List UInt8} (h : content.length < 2) :
    ¬ EndsInEmptyPassword content := by
  rintro ⟨front, b, -, rfl⟩
  simp only [List.length_append, List.length_cons, List.length_nil] at h
  omega

theorem endsInEmptyPassword_append {password : List UInt8} (hpassword : 0 ∉ password)
    (rest : List UInt8) :
    EndsInEmptyPassword (password ++ 0 :: rest) ↔
      (rest = [] ∧ password ≠ []) ∨ EndsInEmptyPassword rest := by
  constructor
  · rintro ⟨front, b, hb, heq⟩
    rcases rest.eq_nil_or_concat with rfl | ⟨before, c, rfl⟩
    · refine Or.inl ⟨rfl, ?_⟩
      rintro rfl
      have hlength := congrArg List.length heq
      simp at hlength
    · rcases before.eq_nil_or_concat with rfl | ⟨before, d, rfl⟩
      · have hends : password ++ [0, c] = front ++ [b, 0] := heq
        have hlast := (List.append_inj' hends rfl).2
        obtain ⟨h0, -⟩ := List.cons.inj hlast
        exact absurd h0.symm hb
      · right
        have hsplit : password ++ 0 :: ((before ++ [d]) ++ [c]) =
            (password ++ 0 :: before) ++ [d, c] := by simp
        rw [List.concat_eq_append, List.concat_eq_append, hsplit] at heq
        have hlast := (List.append_inj' heq rfl).2
        refine ⟨before, b, hb, ?_⟩
        rw [List.concat_eq_append, List.concat_eq_append, ← hlast]
        simp
  · rintro (⟨rfl, hne⟩ | ⟨front, b, hb, rfl⟩)
    · obtain ⟨before, b, rfl⟩ := List.eq_nil_or_concat password |>.resolve_left hne
      refine ⟨before, b, ?_, by simp⟩
      rintro rfl
      exact hpassword (by simp)
    · exact ⟨password ++ 0 :: front, b, hb, by simp⟩

theorem lastPassword_single {password : List UInt8} (hpassword : 0 ∉ password) :
    lastPassword password = password := by
  simp only [lastPassword, Separated.splitOn_single hpassword, List.getLast_singleton]

theorem lastPassword_append {password : List UInt8} (hpassword : 0 ∉ password)
    (rest : List UInt8) : lastPassword (password ++ 0 :: rest) = lastPassword rest := by
  simp only [lastPassword, Separated.splitOn_field hpassword]
  rw [List.getLast_cons (List.splitOn_ne_nil 0 rest)]

/-- The loop takes the last password, but for an empty one behind one that is not. -/
theorem lastUsed_eq_iff (rest : List UInt8) :
    ∀ previous : List UInt8,
      lastUsed previous (rest.splitOn 0) = lastPassword rest ↔
        (rest = [] → previous = []) ∧ ¬ EndsInEmptyPassword rest := by
  induction rest using Separated.induction (0 : UInt8) with
  | single password hpassword =>
    intro previous
    have hends : ¬ EndsInEmptyPassword password := by
      rintro ⟨front, b, -, rfl⟩
      exact hpassword (by simp)
    rw [Separated.splitOn_single hpassword, lastUsed, lastPassword_single hpassword]
    by_cases hempty : password = []
    · simp [hempty, not_endsInEmptyPassword_of_length]
    · simp [hempty, hends]
  | cons password rest hpassword ih =>
    intro previous
    obtain ⟨next, others, hnext⟩ := List.exists_cons_of_ne_nil (List.splitOn_ne_nil 0 rest)
    rw [Separated.splitOn_field hpassword, lastPassword_append hpassword, hnext, lastUsed, ← hnext,
      ih password, endsInEmptyPassword_append hpassword]
    by_cases hrest : rest = []
    · simp [hrest, not_endsInEmptyPassword_of_length]
    · simp [hrest]

/-- What the module sets as the item. -/
def usedPassword (content : List UInt8) : List UInt8 :=
  lastUsed [] (content.splitOn 0)

theorem pamSmAuthenticate_of_read {around : PamGdmSurroundings} {content : List UInt8}
    (hkeyutils : around.haveKeyutils = true) (hserial : around.findKeyByTypeAndDesc ≠ 0)
    (hread : around.keyctlReadAlloc around.findKeyByTypeAndDesc = some content) :
    pamSmAuthenticate around = some {
      result := .success
      authtok := if around.pamSetItem (usedPassword content) = 0 then
        some (usedPassword content) else none } := by
  have hfirst : ∃ previous, stringAt ([] ++ content ++ [0]) 0 = some previous ∧
      lastUsed previous (content.splitOn 0) = usedPassword content := by
    induction content using Separated.induction (0 : UInt8) with
    | single password hpassword =>
      refine ⟨password, stringAt_append [] hpassword, ?_⟩
      rw [usedPassword, Separated.splitOn_single hpassword, lastUsed, lastUsed]
      split
      · next hempty => exact hempty
      · rfl
    | cons password rest hpassword _ =>
      refine ⟨password, ?_, ?_⟩
      · have hbuffer : [] ++ (password ++ 0 :: rest) ++ [0] =
            [] ++ (password ++ 0 :: (rest ++ [(0 : UInt8)])) := by simp
        rw [hbuffer]
        exact stringAt_append [] hpassword
      · obtain ⟨next, others, hnext⟩ := List.exists_cons_of_ne_nil (List.splitOn_ne_nil 0 rest)
        rw [usedPassword, Separated.splitOn_field hpassword, hnext, lastUsed, lastUsed]
  obtain ⟨previous, hstring, hused⟩ := hfirst
  obtain ⟨i, hloop, hlast⟩ := lastCachedPasswordFrom_spec content [] 0 previous hstring
  rw [hused] at hlast
  simp only [List.nil_append, List.length_nil] at hloop hlast
  have hcode : ¬ ((around.pamSetItem (usedPassword content) : Nat) : Int) < 0 := by omega
  simp [pamSmAuthenticate, hkeyutils, hserial, hread, hloop, hlast, hcode]

theorem authenticatesRight_of_read {around : PamGdmSurroundings} {content : List UInt8}
    (hkeyutils : around.haveKeyutils = true) (hserial : around.findKeyByTypeAndDesc ≠ 0)
    (hread : around.keyctlReadAlloc around.findKeyByTypeAndDesc = some content) :
    AuthenticatesRight around ↔ 0 < around.findKeyByTypeAndDesc ∧
      around.pamSetItem (usedPassword content) = 0 ∧
        usedPassword content = lastPassword content := by
  simp [AuthenticatesRight, PasswordReused, pamSmAuthenticate_of_read hkeyutils hserial hread,
    hkeyutils, hread]

/-- The module reads within the buffer and succeeds exactly if the last password has become the
item, if and only if nothing can be read, or the key was found, its last password is not an empty
one behind one that is not, and PAM takes it. -/
theorem authenticatesRight_iff (around : PamGdmSurroundings) :
    AuthenticatesRight around ↔
      around.haveKeyutils = false ∨ around.findKeyByTypeAndDesc = 0 ∨
        ∀ content, around.keyctlReadAlloc around.findKeyByTypeAndDesc = some content →
          0 < around.findKeyByTypeAndDesc ∧ ¬ EndsInEmptyPassword content ∧
            around.pamSetItem (lastPassword content) = 0 := by
  cases hkeyutils : around.haveKeyutils with
  | false =>
    have hrun : pamSmAuthenticate around = some { result := .authinfoUnavail } := by
      simp [pamSmAuthenticate, hkeyutils]
    simp [AuthenticatesRight, PasswordReused, hrun, hkeyutils]
  | true =>
    by_cases hserial : around.findKeyByTypeAndDesc = 0
    · have hrun : pamSmAuthenticate around = some { result := .authinfoUnavail } := by
        simp [pamSmAuthenticate, hserial]
      simp [AuthenticatesRight, PasswordReused, hrun, hserial]
    · cases hread : around.keyctlReadAlloc around.findKeyByTypeAndDesc with
      | none =>
        have hrun : pamSmAuthenticate around = some { result := .authinfoUnavail } := by
          simp [pamSmAuthenticate, hkeyutils, hserial, hread]
        simp [AuthenticatesRight, PasswordReused, hrun, hread]
      | some content =>
        have hused : usedPassword content = lastPassword content ↔
            ¬ EndsInEmptyPassword content := by
          rw [usedPassword, lastUsed_eq_iff]
          simp
        rw [authenticatesRight_of_read hkeyutils hserial hread]
        simp only [hserial, Bool.true_eq_false, false_or, Option.some.injEq, forall_eq']
        constructor
        · rintro ⟨hfound, hset, hlast⟩
          exact ⟨hfound, hused.mp hlast, hlast ▸ hset⟩
        · rintro ⟨hfound, hends, hset⟩
          have hlast := hused.mpr hends
          exact ⟨hfound, hlast.symm ▸ hset, hlast⟩

/-- PAM has no memory for the password, and the module succeeds. -/
theorem failedItem_not_authenticatesRight :
    ¬ AuthenticatesRight { findKeyByTypeAndDesc := 1
                           keyctlReadAlloc := fun _ => some [112, 119]
                           pamSetItem := fun _ => 5 } := by
  intro h
  have hset := ((authenticatesRight_of_read rfl (by decide) rfl).mp h).2.1
  revert hset
  decide

end Gdm
