import AndroidMkxp.Foundation.Edits
import AndroidMkxp.Foundation.Machine
import AndroidMkxp.Foundation.Utf16
import Mathlib.Order.MinMax

/-!
# Text from the soft keyboard

The keyboard edits a text of its own and never tells which keys were pressed. After each edit
`SDLInputConnection.updateText` compares that text with the one it has committed so far, sends a
backspace for every code point that is gone and then what is new.

At the other end the game has a text field: a backspace erases its last code point, committed text
goes to its end. The field and the keyboard's text stay in step over any edits and any number of
connections, as long as no update is cut short after its backspaces. That happens when the game
takes a line break as the end of the input: the update returns with `mCommittedText` as it was.
-/

namespace AndroidMkxp.Input.TextInput

open Foundation Foundation.Utf16

/-- A call into SDL. -/
inductive Call where
  | nativeGenerateScancodeForUnichar (c : ℕ)
  | onNativeSoftReturnKey
  | nativeCommitText (text : List CodeUnit) (newCursorPosition : ℕ)
  deriving DecidableEq

/-- The characters `'\b'` and `'\n'`. -/
def backspace : ℕ := 8
def newline : ℕ := 10

/-! ### Sending an update -/

namespace SDLInputConnection

variable (mCommittedText text : List CodeUnit) (softReturn : ℕ → Bool)

/-- The first loop of `updateText`, from `matchLength` on. -/
def matchPrefix (compareLength : ℕ) : ℕ → ℕ → Option ℕ
  | 0, matchLength        => some matchLength
  | fuel + 1, matchLength =>
    if matchLength < compareLength then do
      let codePoint ← codePointAt mCommittedText matchLength
      let other ← codePointAt text matchLength
      if codePoint ≠ other then some matchLength
      else matchPrefix compareLength fuel (matchLength + charCount codePoint)
    else some matchLength

/-- The second loop. -/
def eraseFrom : ℕ → ℕ → Option (List Call)
  | 0, _           => some []
  | fuel + 1, offset =>
    if offset < mCommittedText.length then do
      let codePoint ← codePointAt mCommittedText offset
      let calls ← eraseFrom fuel (offset + charCount codePoint)
      some (.nativeGenerateScancodeForUnichar backspace :: calls)
    else some []

/-- `onNativeSoftReturnKey` is called on a line break. -/
def asks (codePoint : ℕ) : List Call := if codePoint = newline then [.onNativeSoftReturnKey] else []

/-- Higher code points don't generate simulated scancodes. -/
def scancode (codePoint : ℕ) : List Call :=
  if codePoint < 128 then [.nativeGenerateScancodeForUnichar codePoint] else []

/-- The third loop, and whether it ends without the return from `updateText` in it. `softReturn n`
is what `onNativeSoftReturnKey` returns when it is called for the `n`-th time. -/
def sendFrom (pendingText : List CodeUnit) : ℕ → ℕ → ℕ → Option (List Call × Bool)
  | 0, _, _             => some ([], true)
  | fuel + 1, n, offset =>
    if offset < pendingText.length then do
      let codePoint ← codePointAt pendingText offset
      if codePoint = newline ∧ softReturn n then some (asks codePoint, false)
      else
        let (calls, ended) ←
          sendFrom pendingText fuel (n + (asks codePoint).length) (offset + charCount codePoint)
        some (asks codePoint ++ scancode codePoint ++ calls, ended)
    else some ([], true)

/-- The calls with the new `mCommittedText`, or `none` if an index is out of bounds. -/
def updateText : Option (List Call × List CodeUnit) := do
  let compareLength := min text.length mCommittedText.length
  let matchLength ← matchPrefix mCommittedText text compareLength compareLength 0
  let erased ← eraseFrom mCommittedText mCommittedText.length matchLength
  if matchLength < text.length then
    let pendingText := text.drop matchLength
    let (sent, ended) ← sendFrom softReturn pendingText pendingText.length 0 0
    if ended then some (erased ++ sent ++ [.nativeCommitText pendingText 0], text)
    else some (erased ++ sent, mCommittedText)
  else some (erased, text)

end SDLInputConnection

/-! ### The loops, on code points -/

/-- The third loop on the code points of the pending text. -/
def sendPoints (softReturn : ℕ → Bool) : ℕ → List ℕ → List Call × Bool
  | _, []      => ([], true)
  | n, c :: cs =>
    if c = newline ∧ softReturn n then (SDLInputConnection.asks c, false)
    else
      let sent := sendPoints softReturn (n + (SDLInputConnection.asks c).length) cs
      (SDLInputConnection.asks c ++ SDLInputConnection.scancode c ++ sent.1, sent.2)

variable {committed text t : List CodeUnit} {softReturn : ℕ → Bool} {fuel n offset : ℕ}

namespace SDLInputConnection

/-- `ps` has been passed in both texts, and `offset` is where it ends. -/
structure Matched (committed text : List CodeUnit) (offset : ℕ) (ps : List ℕ) : Prop where
  committed : decode committed = ps ++ remaining committed offset
  text : decode text = ps ++ remaining text offset

lemma Matched.next {ps : List ℕ} {c : ℕ} (h : Matched committed text offset ps)
    (hc : codePointAt committed offset = some c) (hc' : codePointAt text offset = some c) :
    Matched committed text (offset + charCount c) (ps ++ [c]) where
  committed := by
    rw [h.committed, (remaining_of_codePointAt hc).1, List.append_assoc, List.singleton_append]
  text := by
    rw [h.text, (remaining_of_codePointAt hc').1, List.append_assoc, List.singleton_append]

lemma Matched.stop {ps : List ℕ} (h : Matched committed text offset ps)
    (hend : commonPrefix (remaining committed offset) (remaining text offset) = []) :
    Matched committed text offset (commonPrefix (decode committed) (decode text)) := by
  have hps : commonPrefix (decode committed) (decode text) = ps := by
    rw [h.committed, h.text, commonPrefix_append, hend, List.append_nil]
  rwa [hps]

/-- The least edit, from where the loop stops. -/
lemma Matched.between
    (h : Matched committed text offset (commonPrefix (decode committed) (decode text))) :
    (Edit.between (decode committed) (decode text)).erased = (remaining committed offset).length ∧
      (Edit.between (decode committed) (decode text)).appended = remaining text offset := by
  have hlength := congrArg List.length h.committed
  rw [List.length_append] at hlength
  refine ⟨?_, ?_⟩
  · rw [Edit.between_erased]
    omega
  · exact List.append_cancel_left ((Edit.commonPrefix_append_between _ _).trans h.text)

lemma commonPrefix_remaining_of_le (h : min text.length committed.length ≤ offset) :
    commonPrefix (remaining committed offset) (remaining text offset) = [] := by
  rcases min_le_iff.mp h with htext | hcommitted
  · rw [remaining_eq_nil_iff.mpr htext, commonPrefix_nil_right]
  · rw [remaining_eq_nil_iff.mpr hcommitted, commonPrefix_nil_left]

/-- The loop stops between code points, after the longest common prefix. -/
lemma matchPrefix_spec {ps : List ℕ} (h : Matched committed text offset ps)
    (hfuel : min text.length committed.length ≤ offset + fuel) :
    ∃ matchLength,
      matchPrefix committed text (min text.length committed.length) fuel offset =
        some matchLength ∧
      Matched committed text matchLength (commonPrefix (decode committed) (decode text)) := by
  induction fuel generalizing offset ps with
  | zero => exact ⟨offset, rfl, h.stop (commonPrefix_remaining_of_le hfuel)⟩
  | succ fuel ih =>
    rw [matchPrefix]
    split_ifs with hlt
    · obtain ⟨htext, hcommitted⟩ := lt_min_iff.mp hlt
      obtain ⟨c, hc⟩ := exists_codePointAt hcommitted
      obtain ⟨c', hc'⟩ := exists_codePointAt htext
      have hpos := charCount_pos c
      simp only [hc, hc', Option.bind_eq_bind, Option.bind_some]
      split_ifs with hne
      · refine ⟨offset, rfl, h.stop ?_⟩
        rw [(remaining_of_codePointAt hc).1, (remaining_of_codePointAt hc').1,
          commonPrefix_cons_cons, if_neg hne]
      · obtain rfl := not_not.mp hne
        exact ih (h.next hc hc') (by omega)
    · exact ⟨offset, rfl, h.stop (commonPrefix_remaining_of_le (Nat.not_lt.mp hlt))⟩

/-- One backspace for every code point that is left. -/
lemma eraseFrom_spec (hfuel : committed.length ≤ offset + fuel) :
    eraseFrom committed fuel offset = some (List.replicate (remaining committed offset).length
      (.nativeGenerateScancodeForUnichar backspace)) := by
  induction fuel generalizing offset with
  | zero =>
    rw [remaining_eq_nil_iff.mpr (by omega)]
    rfl
  | succ fuel ih =>
    rw [eraseFrom]
    split_ifs with hlt
    · obtain ⟨c, hc⟩ := exists_codePointAt hlt
      have hpos := charCount_pos c
      rw [hc, (remaining_of_codePointAt hc).1, List.length_cons, List.replicate_succ]
      simp only [Option.bind_eq_bind, Option.bind_some]
      rw [ih (by omega)]
      rfl
    · rw [remaining_eq_nil_iff.mpr (by omega)]
      rfl

lemma sendFrom_spec (hfuel : text.length ≤ offset + fuel) : sendFrom softReturn text fuel n offset =
    some (sendPoints softReturn n (remaining text offset)) := by
  induction fuel generalizing n offset with
  | zero =>
    rw [remaining_eq_nil_iff.mpr (by omega)]
    rfl
  | succ fuel ih =>
    rw [sendFrom]
    split_ifs with hlt
    · obtain ⟨c, hc⟩ := exists_codePointAt hlt
      have hpos := charCount_pos c
      rw [hc, (remaining_of_codePointAt hc).1, sendPoints]
      simp only [Option.bind_eq_bind, Option.bind_some]
      rw [ih (by omega)]
      split_ifs <;> rfl
    · rw [remaining_eq_nil_iff.mpr (by omega)]
      rfl

/-- The least edit from the committed text to the text, as calls. No index is out of bounds. -/
theorem updateText_eq (committed text : List CodeUnit) (softReturn : ℕ → Bool) :
    ∃ pendingText, decode pendingText = (Edit.between (decode committed) (decode text)).appended ∧
      updateText committed text softReturn =
        let e := Edit.between (decode committed) (decode text)
        let sent := sendPoints softReturn 0 e.appended
        some (List.replicate e.erased (.nativeGenerateScancodeForUnichar backspace) ++ (sent.1 ++
          if sent.2 ∧ e.appended ≠ [] then [.nativeCommitText pendingText 0] else []),
          if sent.2 then text else committed) := by
  have hstart : Matched committed text 0 [] := ⟨rfl, rfl⟩
  obtain ⟨matchLength, hmatch, hmatched⟩ := matchPrefix_spec hstart
    (Nat.le_of_eq (Nat.zero_add (min text.length committed.length)).symm)
  have herased := hmatched.between.1
  have happended := hmatched.between.2
  refine ⟨text.drop matchLength, happended.symm, ?_⟩
  have herase := eraseFrom_spec (Nat.le_add_left committed.length matchLength)
  have hsend : sendFrom softReturn (text.drop matchLength) (text.drop matchLength).length 0 0 =
      some (sendPoints softReturn 0 (remaining text matchLength)) :=
    sendFrom_spec (Nat.le_add_left _ 0)
  simp only [updateText, hmatch, herase, hsend, Option.bind_eq_bind, Option.bind_some]
  rw [herased, happended]
  by_cases hlt : matchLength < text.length
  · have hne : remaining text matchLength ≠ [] :=
      mt remaining_eq_nil_iff.mp (Nat.not_le.mpr hlt)
    rw [if_pos hlt]
    cases (sendPoints softReturn 0 (remaining text matchLength)).2 <;> simp [hne]
  · have hnil : remaining text matchLength = [] := remaining_eq_nil_iff.mpr (Nat.not_lt.mp hlt)
    rw [if_neg hlt, hnil]
    simp [sendPoints]

end SDLInputConnection

/-! ### The text field of the game -/

/-- What the field shows after a call. -/
def receive (field : List ℕ) : Call → List ℕ
  | .nativeGenerateScancodeForUnichar c => if c = backspace then field.dropLast else field
  | .onNativeSoftReturnKey              => field
  | .nativeCommitText text _            => field ++ decode text

def receiveAll (field : List ℕ) (calls : List Call) : List ℕ := calls.foldl receive field

variable {field : List ℕ} {calls calls' : List Call} {cs : List ℕ}

lemma receiveAll_cons (call : Call) :
    receiveAll field (call :: calls) = receiveAll (receive field call) calls := rfl

lemma receiveAll_append :
    receiveAll field (calls ++ calls') = receiveAll (receiveAll field calls) calls' :=
  List.foldl_append

lemma receiveAll_replicate_backspace (field : List ℕ) (n : ℕ) :
    receiveAll field (List.replicate n (.nativeGenerateScancodeForUnichar backspace)) =
      field.rdrop n := by
  induction n generalizing field with
  | zero => simp [receiveAll]
  | succ n ih =>
    have hdropLast : field.dropLast = field.rdrop 1 := List.dropLast_eq_take
    rw [List.replicate_succ, receiveAll_cons, ih, receive, if_pos rfl, hdropLast, List.rdrop_add,
      Nat.add_comm 1 n]

lemma receiveAll_asks (c : ℕ) : receiveAll field (SDLInputConnection.asks c) = field := by
  rw [SDLInputConnection.asks]
  split_ifs <;> rfl

lemma receiveAll_scancode {c : ℕ} (hc : c ≠ backspace) :
    receiveAll field (SDLInputConnection.scancode c) = field := by
  rw [SDLInputConnection.scancode]
  split_ifs
  · exact if_neg hc
  · rfl

/-- Without a backspace among them, the scancodes of what is new leave the field as it is. -/
lemma receiveAll_sendPoints (hcs : backspace ∉ cs) :
    receiveAll field (sendPoints softReturn n cs).1 = field := by
  induction cs generalizing n with
  | nil => rfl
  | cons c cs ih =>
    obtain ⟨hc, hcs⟩ := not_or.mp (mt List.mem_cons.mpr hcs)
    rw [sendPoints]
    split_ifs
    · exact receiveAll_asks c
    · rw [receiveAll_append, receiveAll_append, receiveAll_asks, receiveAll_scancode (Ne.symm hc),
        ih hcs]

/-- The update is cut short if some line break is taken as the end of the input. -/
lemma sendPoints_ended_iff :
    (sendPoints softReturn n cs).2 = true ↔ ∀ i < cs.count newline, softReturn (n + i) = false := by
  induction cs generalizing n with
  | nil => simp [sendPoints]
  | cons c cs ih =>
    rw [sendPoints]
    by_cases hc : c = newline
    · subst hc
      rw [List.count_cons_self]
      split_ifs with hswallowed
      · simp only [false_iff, not_forall]
        exact ⟨0, Nat.succ_pos _, by simp [hswallowed.2]⟩
      · have hfirst : softReturn n = false := by simpa using hswallowed
        have hrest : (sendPoints softReturn (n + 1) cs).2 = true ↔
            ∀ i < cs.count newline, softReturn (n + (i + 1)) = false := by
          rw [ih]
          simp only [Nat.add_assoc, Nat.add_comm 1]
        refine hrest.trans ⟨?_, fun h i hi => h (i + 1) (Nat.succ_lt_succ hi)⟩
        intro h i hi
        cases i with
        | zero => exact hfirst
        | succ i => exact h i (Nat.lt_of_succ_lt_succ hi)
    · rw [if_neg fun h => hc h.1, List.count_cons_of_ne hc]
      simpa [SDLInputConnection.asks, hc] using ih

/-- The update is cut short. -/
def Swallowed (committed text : List CodeUnit) (softReturn : ℕ → Bool) : Prop :=
  ∃ i < (Edit.between (decode committed) (decode text)).appended.count newline,
    softReturn i = true

instance : Decidable (Swallowed committed text softReturn) :=
  inferInstanceAs (Decidable (∃ i < _, softReturn i = true))

lemma not_swallowed_iff : ¬Swallowed committed text softReturn ↔
    (sendPoints softReturn 0 (Edit.between (decode committed) (decode text)).appended).2 =
      true := by
  simp [Swallowed, sendPoints_ended_iff]

lemma backspace_notMem_appended (htext : backspace ∉ decode text) :
    backspace ∉ (Edit.between (decode committed) (decode text)).appended :=
  fun hmem => htext (List.drop_subset _ _ hmem)

/-- What an update does to the field. -/
lemma receiveAll_updateText (field : List ℕ) {committed' : List CodeUnit}
    (htext : backspace ∉ decode text)
    (h : SDLInputConnection.updateText committed text softReturn = some (calls, committed')) :
    (¬Swallowed committed text softReturn → committed' = text ∧
      receiveAll (field ++ decode committed) calls = field ++ decode text) ∧
    (Swallowed committed text softReturn → committed' = committed ∧
      receiveAll (field ++ decode committed) calls =
        field ++ commonPrefix (decode committed) (decode text)) := by
  obtain ⟨pendingText, hpending, heq⟩ := SDLInputConnection.updateText_eq committed text softReturn
  have herase : receiveAll (field ++ decode committed)
      (List.replicate (Edit.between (decode committed) (decode text)).erased
        (.nativeGenerateScancodeForUnichar backspace)) =
      field ++ commonPrefix (decode committed) (decode text) := by
    rw [receiveAll_replicate_backspace,
      List.rdrop_append_of_le_length _ (Edit.between_erased_le_length _ _), Edit.rdrop_between]
  rw [heq] at h
  simp only [Option.some.injEq, Prod.mk.injEq] at h
  obtain ⟨rfl, rfl⟩ := h
  rw [receiveAll_append, receiveAll_append, herase,
    receiveAll_sendPoints (backspace_notMem_appended htext)]
  refine ⟨fun hended => ?_, fun hswallowed => ?_⟩
  · rw [not_swallowed_iff] at hended
    have hwhole := Edit.commonPrefix_append_between (decode committed) (decode text)
    refine ⟨if_pos hended, ?_⟩
    by_cases hnil : (Edit.between (decode committed) (decode text)).appended = []
    · rw [hnil, List.append_nil] at hwhole
      rw [if_neg fun h => h.2 hnil, hwhole]
      rfl
    · rw [if_pos ⟨hended, hnil⟩, receiveAll_cons, receive, hpending, List.append_assoc, hwhole]
      rfl
  · have hcut := mt not_swallowed_iff.mpr (not_not.mpr hswallowed)
    exact ⟨if_neg hcut, by rw [if_neg fun h => hcut h.1]; rfl⟩

def Call.erases : Call → Bool
  | .nativeGenerateScancodeForUnichar c => c = backspace
  | _                                   => false

lemma prefix_receiveAll {u : List ℕ} (h : calls.countP Call.erases ≤ u.length) :
    field <+: receiveAll (field ++ u) calls := by
  induction calls generalizing u with
  | nil => exact List.prefix_append _ _
  | cons call calls ih =>
    rw [List.countP_cons] at h
    rw [receiveAll_cons]
    cases call with
    | nativeGenerateScancodeForUnichar c =>
      rw [receive]
      split_ifs with hc
      · have hpos : u ≠ [] := by
          rintro rfl
          simp [Call.erases, hc] at h
        rw [List.dropLast_append_of_ne_nil hpos]
        refine ih ?_
        simp only [Call.erases, hc, decide_true, if_true] at h
        rw [List.length_dropLast]
        omega
      · exact ih (Nat.le_of_add_right_le h)
    | onNativeSoftReturnKey => exact ih (Nat.le_of_add_right_le h)
    | nativeCommitText text newCursorPosition =>
      rw [receive, List.append_assoc]
      refine ih ?_
      rw [List.length_append]
      exact (Nat.le_of_add_right_le h).trans (Nat.le_add_right _ _)

lemma countP_sendPoints (hcs : backspace ∉ cs) :
    (sendPoints softReturn n cs).1.countP Call.erases = 0 := by
  have hasks (c : ℕ) : (SDLInputConnection.asks c).countP Call.erases = 0 := by
    rw [SDLInputConnection.asks]
    split_ifs <;> rfl
  induction cs generalizing n with
  | nil => rfl
  | cons c cs ih =>
    obtain ⟨hc, hcs⟩ := not_or.mp (mt List.mem_cons.mpr hcs)
    have hscancode : (SDLInputConnection.scancode c).countP Call.erases = 0 := by
      rw [SDLInputConnection.scancode]
      split_ifs <;> simp [Call.erases, Ne.symm hc]
    rw [sendPoints]
    split_ifs
    · exact hasks c
    · rw [List.countP_append, List.countP_append, hasks, hscancode, ih hcs]

/-- The number of backspaces, whether the update is cut short or not. -/
lemma countP_updateText {committed' : List CodeUnit} (htext : backspace ∉ decode text)
    (h : SDLInputConnection.updateText committed text softReturn = some (calls, committed')) :
    calls.countP Call.erases = (Edit.between (decode committed) (decode text)).erased := by
  obtain ⟨pendingText, hpending, heq⟩ := SDLInputConnection.updateText_eq committed text softReturn
  rw [heq] at h
  simp only [Option.some.injEq, Prod.mk.injEq] at h
  obtain ⟨rfl, -⟩ := h
  have herases : Call.erases (.nativeGenerateScancodeForUnichar backspace) = true := rfl
  rw [List.countP_append, List.countP_append, List.countP_replicate, if_pos herases,
    countP_sendPoints (backspace_notMem_appended htext)]
  split_ifs <;> simp [Call.erases]

/-- The character of a simulated key. -/
def Call.character : Call → Option ℕ
  | .nativeGenerateScancodeForUnichar c => some c
  | _                                   => none

/-- What is committed. -/
def Call.commits : Call → List ℕ
  | .nativeCommitText text _ => decode text
  | _                        => []

lemma filterMap_sendPoints (h : (sendPoints softReturn n cs).2 = true) :
    (sendPoints softReturn n cs).1.filterMap Call.character = cs.filter (· < 128) := by
  have hasks (c : ℕ) : (SDLInputConnection.asks c).filterMap Call.character = [] := by
    rw [SDLInputConnection.asks]
    split_ifs <;> rfl
  induction cs generalizing n with
  | nil => rfl
  | cons c cs ih =>
    rw [sendPoints] at h ⊢
    split_ifs at h ⊢
    · rw [List.filterMap_append, List.filterMap_append, hasks, ih h]
      by_cases hc : c < 128 <;>
        simp [SDLInputConnection.scancode, hc, Call.character]

lemma flatMap_sendPoints : (sendPoints softReturn n cs).1.flatMap Call.commits = [] := by
  have hasks (c : ℕ) : (SDLInputConnection.asks c).flatMap Call.commits = [] := by
    rw [SDLInputConnection.asks]
    split_ifs <;> rfl
  have hscancode (c : ℕ) : (SDLInputConnection.scancode c).flatMap Call.commits = [] := by
    rw [SDLInputConnection.scancode]
    split_ifs <;> rfl
  induction cs generalizing n with
  | nil => rfl
  | cons c cs ih =>
    rw [sendPoints]
    split_ifs
    · exact hasks c
    · rw [List.flatMap_append, List.flatMap_append, hasks, hscancode, ih]
      rfl

/-- An update never reads outside the texts. Of all edits that would do, it makes the least, and if
it is not cut short it commits just what is new, with a key for each character of ASCII. -/
theorem update_is_least_edit (committed text : List CodeUnit) (softReturn : ℕ → Bool)
    (htext : backspace ∉ decode text) : ∃ calls committed',
      SDLInputConnection.updateText committed text softReturn = some (calls, committed') ∧
      (∀ e : Edit ℕ, e.apply (decode committed) = decode text →
        calls.countP Call.erases ≤ e.erased) ∧
      (¬Swallowed committed text softReturn → committed' = text ∧
        decode text = commonPrefix (decode committed) (decode text) ++ calls.flatMap Call.commits ∧
        calls.filterMap Call.character = List.replicate (calls.countP Call.erases) backspace ++
          (calls.flatMap Call.commits).filter (· < 128)) := by
  obtain ⟨pendingText, hpending, heq⟩ := SDLInputConnection.updateText_eq committed text softReturn
  refine ⟨_, _, heq, ?_, ?_⟩
  · intro e he
    rw [countP_updateText htext heq]
    exact Edit.between_erased_le he
  · intro hended
    rw [not_swallowed_iff] at hended
    have herased (n : ℕ) : (List.replicate n
        (Call.nativeGenerateScancodeForUnichar backspace)).flatMap Call.commits = [] := by
      simp [Call.commits]
    have hlast : (if (sendPoints softReturn 0
          (Edit.between (decode committed) (decode text)).appended).2 ∧
        (Edit.between (decode committed) (decode text)).appended ≠ [] then
          [Call.nativeCommitText pendingText 0] else []).flatMap Call.commits =
        (Edit.between (decode committed) (decode text)).appended := by
      split_ifs with h
      · simp [Call.commits, hpending]
      · exact (by_contra fun hne => h ⟨hended, Ne.symm hne⟩)
    rw [countP_updateText htext heq, List.flatMap_append, List.flatMap_append, herased,
      flatMap_sendPoints, hlast, List.nil_append, List.nil_append, List.filterMap_append,
      List.filterMap_append, filterMap_sendPoints hended, List.filterMap_replicate]
    refine ⟨if_pos hended, (Edit.commonPrefix_append_between _ _).symm, ?_⟩
    split_ifs <;> simp [Call.character]

/-- From one emoji to another, which begins with the same code unit. -/
theorem update_is_least_edit_emoji : ∃ calls committed',
    SDLInputConnection.updateText [0x61, 0xD83D, 0xDE00] [0x61, 0xD83D, 0xDE01] (fun _ => false) =
      some (calls, committed') ∧
    calls.countP Call.erases ≤ 1 := by
  obtain ⟨calls, committed', hupdate, hleast, -⟩ :=
    update_is_least_edit [0x61, 0xD83D, 0xDE00] [0x61, 0xD83D, 0xDE01] (fun _ => false) (by decide)
  exact ⟨calls, committed', hupdate, hleast ⟨1, [0x1F601]⟩ (by decide)⟩

/-! ### Connections -/

structure State where
  /-- The `mCommittedText` of the connection, if there has been one. -/
  ic : Option (List CodeUnit)
  /-- What was committed before this connection. No step depends on it. -/
  earlier : List ℕ
  /-- What was committed past this connection. No step depends on it. -/
  later : List ℕ

inductive Action where
  /-- The keyboard connects anew. -/
  | onCreateInputConnection
  /-- `commitText`, `setComposingText` or `deleteSurroundingText` has left `text`. -/
  | updateText (text : List CodeUnit) (softReturn : ℕ → Bool)
  /-- A key of a hardware keyboard that has a text, on the surface or before there is a connection.
  On the text view it is a `commitText`. The other keys, such as the hardware backspace, go to the
  game by `onNativeKeyDown` alone, which is left out here. -/
  | handleKeyEvent (unicodeChar : CodeUnit)

def initial : State where
  ic := none
  earlier := []
  later := []

/-- What was committed over this connection. -/
def State.mCommittedText (s : State) : List CodeUnit := s.ic.getD []

/-- Everything that was committed. -/
def State.sent (s : State) : List ℕ := s.earlier ++ decode s.mCommittedText ++ s.later

def step (s : State) : Action → Option (State × List Call)
  | .onCreateInputConnection =>
    some ({ ic := some [], earlier := s.sent, later := [] }, [])
  | .updateText text softReturn =>
    match s.ic with
    | none                => none
    | some mCommittedText => do
      let (calls, mCommittedText) ← SDLInputConnection.updateText mCommittedText text softReturn
      some ({ s with ic := some mCommittedText }, calls)
  | .handleKeyEvent unicodeChar =>
    some ({ s with later := s.later ++ decode [unicodeChar] }, [.nativeCommitText [unicodeChar] 1])

def machine : Machine State Action Call := ⟨step⟩

/-- The field ends in everything that was committed, whatever it showed before. -/
def InStep (tr : List Call) (s : State) : Prop := ∀ field, receiveAll field tr = field ++ s.sent

variable {s s' s₀ : State} {a : Action} {tr es : List Call} {ok : State → Action → Prop}

lemma exists_of_updateText (h : step s (.updateText text softReturn) = some (s', es)) :
    ∃ committed', SDLInputConnection.updateText s.mCommittedText text softReturn =
      some (es, committed') ∧ s'.mCommittedText = committed' ∧ s'.earlier = s.earlier ∧
        s'.later = s.later := by
  simp only [step] at h
  split at h
  · cases h
  · next committed hic =>
    obtain ⟨⟨calls, committed'⟩, hupdate, heq⟩ := Option.bind_eq_some_iff.mp h
    cases heq
    have hcommitted : s.mCommittedText = committed := by rw [State.mCommittedText, hic]; rfl
    exact ⟨committed', by rw [hcommitted, hupdate], rfl, rfl, rfl⟩

/-- An update keeps the field in step, unless it erases something and is then cut short. -/
theorem inStep_updateText_iff (hs : InStep tr s) (hlater : s.later = [])
    (htext : backspace ∉ decode text)
    (h : step s (.updateText text softReturn) = some (s', es)) :
    InStep (tr ++ es) s' ↔
      (Swallowed s.mCommittedText text softReturn → decode s.mCommittedText <+: decode text) := by
  obtain ⟨committed', hupdate, hcommitted, hearlier, hlater'⟩ := exists_of_updateText h
  have hstart (field : List ℕ) : receiveAll field (tr ++ es) =
      receiveAll ((field ++ s.earlier) ++ decode s.mCommittedText) es := by
    rw [receiveAll_append, hs, State.sent, hlater, List.append_nil, List.append_assoc]
  have hgoal (field : List ℕ) : field ++ s'.sent = (field ++ s.earlier) ++ decode committed' := by
    rw [State.sent, hcommitted, hearlier, hlater', hlater, List.append_nil, List.append_assoc]
  simp only [InStep, hstart, hgoal]
  have hreceive (field : List ℕ) := receiveAll_updateText (field ++ s.earlier) htext hupdate
  by_cases hswallowed : Swallowed s.mCommittedText text softReturn
  · have hcommitted' := ((hreceive []).2 hswallowed).1
    have hfield (field : List ℕ) := ((hreceive field).2 hswallowed).2
    simp only [hcommitted', hfield, List.append_cancel_left_eq, forall_const, hswallowed,
      commonPrefix_eq_left_iff]
  · have hcommitted' := ((hreceive []).1 hswallowed).1
    have hfield (field : List ℕ) := ((hreceive field).1 hswallowed).2
    refine iff_of_true (fun field => ?_) fun h => absurd h hswallowed
    rw [hfield, hcommitted']

/-- No key has gone past the connection, the text holds no backspace of its own, and a line break in
what is new is taken as the end of the input only when nothing has to be erased. -/
def Clean (s : State) : Action → Prop
  | .updateText text softReturn =>
    s.later = [] ∧ backspace ∉ decode text ∧
      (Swallowed s.mCommittedText text softReturn → decode s.mCommittedText <+: decode text)
  | _ => True

instance (s : State) (a : Action) : Decidable (Clean s a) :=
  match a with
  | .updateText text softReturn => inferInstanceAs (Decidable (s.later = [] ∧
      backspace ∉ decode text ∧
        (Swallowed s.mCommittedText text softReturn → decode s.mCommittedText <+: decode text)))
  | .onCreateInputConnection    => inferInstanceAs (Decidable True)
  | .handleKeyEvent _           => inferInstanceAs (Decidable True)

/-- A step erases no more than what was committed. -/
lemma countP_step_le (hclean : Clean s a) (h : step s a = some (s', es)) :
    es.countP Call.erases ≤ s.sent.length := by
  cases a with
  | onCreateInputConnection =>
    cases h
    exact Nat.zero_le _
  | updateText text softReturn =>
    obtain ⟨committed', hupdate, -⟩ := exists_of_updateText h
    rw [countP_updateText hclean.2.1 hupdate, State.sent, List.length_append, List.length_append]
    have hle := Edit.between_erased_le_length (decode s.mCommittedText) (decode text)
    omega
  | handleKeyEvent unicodeChar =>
    cases h
    exact Nat.zero_le _

lemma inStep_step (hs : InStep tr s) (hclean : Clean s a) (h : step s a = some (s', es)) :
    InStep (tr ++ es) s' := by
  cases a with
  | onCreateInputConnection =>
    cases h
    intro field
    rw [List.append_nil, hs]
    simp [State.sent, State.mCommittedText, decode]
  | updateText text softReturn =>
    exact (inStep_updateText_iff hs hclean.1 hclean.2.1 h).mpr hclean.2.2
  | handleKeyEvent unicodeChar =>
    cases h
    intro field
    rw [receiveAll_append, hs]
    simp [State.sent, State.mCommittedText, decode, receiveAll, receive]

/-- At no moment is something gone that was in the field before. -/
def Keeps (tr : List Call) : Prop := ∀ field, ∀ tr', tr' <+: tr → field <+: receiveAll field tr'

lemma keeps_step (hs : InStep tr s) (hkeeps : Keeps tr) (hclean : Clean s a)
    (h : step s a = some (s', es)) : Keeps (tr ++ es) := by
  intro field tr' hprefix
  rcases List.prefix_or_prefix_of_prefix hprefix (List.prefix_append tr es) with hearlier | hlater
  · exact hkeeps field tr' hearlier
  · obtain ⟨es', rfl⟩ := hlater
    have hes := ((List.prefix_append_right_inj tr).mp hprefix).sublist.countP_le (p := Call.erases)
    rw [receiveAll_append, hs]
    exact prefix_receiveAll (hes.trans (countP_step_le hclean h))

theorem inStep_of_run (hclean : ∀ s a, ok s a → Clean s a) (hs₀ : s₀.sent = [])
    (h : machine.Run ok s₀ tr s) : InStep tr s ∧ Keeps tr := by
  refine h.invariant (fun tr s => InStep tr s ∧ Keeps tr) ⟨?_, ?_⟩ ?_
  · simp [InStep, receiveAll, hs₀]
  · simp [Keeps, receiveAll]
  · intro tr s a s' es _ hs hok hstep
    exact ⟨inStep_step hs.1 (hclean s a hok) hstep, keeps_step hs.1 hs.2 (hclean s a hok) hstep⟩

/-- Over any edits and connections the field ends in what was committed, and nothing that was there
before is ever erased. After an update that is not cut short, it ends in the keyboard's text. -/
theorem field_follows_keyboard (hclean : ∀ s a, ok s a → Clean s a) (hs₀ : s₀.sent = [])
    (h : machine.Run ok s₀ tr s) (field : List ℕ) :
    receiveAll field tr = field ++ s.sent ∧
      (∀ tr', tr' <+: tr → field <+: receiveAll field tr') ∧
      ∀ text softReturn s' es, ok s (.updateText text softReturn) →
        machine.step s (.updateText text softReturn) = some (s', es) →
        ¬Swallowed s.mCommittedText text softReturn →
        receiveAll field (tr ++ es) = field ++ (s.earlier ++ decode text) := by
  obtain ⟨hs, hkeeps⟩ := inStep_of_run hclean hs₀ h
  refine ⟨hs field, hkeeps field, ?_⟩
  intro text softReturn s' es hok hstep hswallowed
  obtain ⟨hlater, htext, -⟩ := hclean _ _ hok
  obtain ⟨committed', hupdate, -⟩ := exists_of_updateText hstep
  have hfield := ((receiveAll_updateText (field ++ s.earlier) htext hupdate).1 hswallowed).2
  rw [receiveAll_append, hs, State.sent, hlater, List.append_nil, ← List.append_assoc, hfield,
    List.append_assoc]

theorem field_follows_keyboard_emoji : ∃ tr s, machine.Run Clean initial tr s ∧
    s.sent = [0x61, 0x62, 0x1F601] ∧ receiveAll [0x3E] tr = [0x3E] ++ s.sent := by
  obtain ⟨tr, s, hrun, hsent⟩ := Machine.Run.exists_of_exec machine Clean initial
    [.handleKeyEvent 0x61, .onCreateInputConnection,
      .updateText [0x62, 0xD83D, 0xDE00] (fun _ => false),
      .updateText [0x62, 0xD83D, 0xDE01] (fun _ => false)]
    (fun s _ => s.sent = [0x61, 0x62, 0x1F601]) (by decide)
  exact ⟨tr, s, hrun, hsent, (field_follows_keyboard (fun _ _ h => h) rfl hrun [0x3E]).1⟩

/-- When a line break in what is new is taken as the end of the input, the field stays in step with
what the connection takes as committed exactly if no backspace was sent before. -/
theorem line_break_keeps_step_iff (hclean : ∀ s a, ok s a → Clean s a) (hs₀ : s₀.sent = [])
    (h : machine.Run ok s₀ tr s) (hlater : s.later = []) (htext : backspace ∉ decode text)
    (hswallowed : Swallowed s.mCommittedText text softReturn)
    (hstep : machine.step s (.updateText text softReturn) = some (s', es)) :
    s'.mCommittedText = s.mCommittedText ∧
      ((∀ field, receiveAll field (tr ++ es) = field ++ s'.sent) ↔
        decode s.mCommittedText <+: decode text) := by
  have hs := (inStep_of_run hclean hs₀ h).1
  obtain ⟨committed', hupdate, rfl, -⟩ := exists_of_updateText hstep
  refine ⟨((receiveAll_updateText [] htext hupdate).2 hswallowed).1, ?_⟩
  exact (inStep_updateText_iff hs hlater htext hstep).trans ⟨fun h => h hswallowed, fun h _ => h⟩

theorem line_break_keeps_step_iff_lost : ∃ tr s es s', machine.Run Clean initial tr s ∧
    machine.step s (.updateText [0x61, 0x0A] fun _ => true) = some (s', es) ∧
    ¬∀ field, receiveAll field (tr ++ es) = field ++ s'.sent := by
  obtain ⟨tr, s, hrun, hcommitted, hlater, hsome⟩ := Machine.Run.exists_of_exec machine Clean
    initial [.onCreateInputConnection, .updateText [0x61, 0x62] fun _ => false]
    (fun s _ => s.mCommittedText = [0x61, 0x62] ∧ s.later = [] ∧
      (machine.step s (.updateText [0x61, 0x0A] fun _ => true)).isSome) (by decide)
  obtain ⟨⟨s', es⟩, hstep⟩ := Option.isSome_iff_exists.mp hsome
  refine ⟨tr, s, es, s', hrun, hstep, ?_⟩
  rw [(line_break_keeps_step_iff (fun _ _ h => h) rfl hrun hlater (by decide)
    (by rw [hcommitted]; decide) hstep).2, hcommitted]
  decide

end AndroidMkxp.Input.TextInput
