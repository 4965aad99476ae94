import HostAccounts.Proofs.Text.Replacement
import HostAccounts.Shell.Quoting

/-!
# Masking a quoted text

What replacing a text between single quotes does to a text that holds others. An occurrence opens
with a quote and closes with one, so it can stand across two quoted texts, or inside one that holds
quotes itself. The alignment lemma `eq_or_eq_append_of_starts` says where it cannot.
-/

set_option autoImplicit false

namespace HostAccounts.Shell

open Text (replaced replaced_cons replaced_part_append replaced_append_of_not_mem)

/-! ## Alignment -/

theorem escapeQuotes_quote (cs : List Char) :
    escapeQuotes ('\'' :: cs) = '\'' :: '\\' :: '\'' :: '\'' :: escapeQuotes cs := rfl

theorem escapeQuotes_cons {c : Char} (h : c ≠ '\'') (cs : List Char) :
    escapeQuotes (c :: cs) = c :: escapeQuotes cs := by
  rw [escapeQuotes, if_neg h]

/-- A quoted text that stands at the front of another one is the whole of it, or the other goes on
with a quote. The two agree character by character until one of them ends; a backslash behind the
other would let its closing quote begin an escaped one. -/
theorem eq_or_eq_append_of_starts {secret cs back : List Char} (hback : back.head? ≠ some '\\')
    (h : escapeQuotes secret ++ ['\''] <+: escapeQuotes cs ++ '\'' :: back) :
    secret = cs ∨ ∃ rest, cs = secret ++ '\'' :: rest := by
  induction secret generalizing cs with
  | nil =>
    cases cs with
    | nil => exact Or.inl rfl
    | cons c cs =>
      by_cases hc : c = '\''
      · exact Or.inr ⟨cs, by rw [hc]; rfl⟩
      · rw [escapeQuotes_cons hc] at h
        exact absurd (List.cons_prefix_cons.mp h).1.symm hc
  | cons d secret ih =>
    by_cases hd : d = '\''
    · subst hd
      rw [escapeQuotes_quote] at h
      cases cs with
      | nil =>
        obtain ⟨more, hmore⟩ := (List.cons_prefix_cons.mp h).2
        rw [← hmore] at hback
        exact absurd rfl hback
      | cons c cs =>
        by_cases hc : c = '\''
        · subst hc
          rw [escapeQuotes_quote] at h
          have hrest : escapeQuotes secret ++ ['\''] <+: escapeQuotes cs ++ '\'' :: back := by
            simpa only [List.cons_append, List.cons_prefix_cons, true_and] using h
          rcases ih hrest with rfl | ⟨rest, rfl⟩
          · exact Or.inl rfl
          · exact Or.inr ⟨rest, rfl⟩
        · rw [escapeQuotes_cons hc] at h
          exact absurd (List.cons_prefix_cons.mp h).1.symm hc
    · rw [escapeQuotes_cons hd] at h
      cases cs with
      | nil => exact absurd (List.cons_prefix_cons.mp h).1 hd
      | cons c cs =>
        by_cases hc : c = '\''
        · subst hc
          exact absurd (List.cons_prefix_cons.mp h).1 hd
        · rw [escapeQuotes_cons hc] at h
          obtain ⟨rfl, hrest⟩ := List.cons_prefix_cons.mp h
          rcases ih hrest with rfl | ⟨rest, rfl⟩
          · exact Or.inl rfl
          · exact Or.inr ⟨rest, rfl⟩

/-- A text can be told from what is written for it. -/
theorem singleQuoted_injective {cs ds : List Char} (h : singleQuoted cs = singleQuoted ds) :
    cs = ds := by
  have hbody : escapeQuotes cs ++ ['\''] = escapeQuotes ds ++ ['\''] := List.tail_eq_of_cons_eq h
  have hstarts : escapeQuotes cs ++ ['\''] <+: escapeQuotes ds ++ ['\''] := by rw [hbody]
  rcases eq_or_eq_append_of_starts (by simp) hstarts with heq | ⟨rest, hrest⟩
  · exact heq
  · have hlength := congrArg List.length hbody
    rw [hrest, escapeQuotes_append, escapeQuotes_quote] at hlength
    simp at hlength

/-- A text without quotes stands between the quotes as it is. -/
theorem singleQuoted_eq {cs : List Char} (h : '\'' ∉ cs) :
    singleQuoted cs = '\'' :: (cs ++ ['\'']) := by
  rw [singleQuoted, escapeQuotes_eq_self h]

/-- Between two quotes without one in between only that text can stand quoted. -/
theorem eq_of_starts_singleQuoted {secret mid back : List Char} (hmid : '\'' ∉ mid)
    (hback : back.head? ≠ some '\\') (h : singleQuoted secret <+: '\'' :: (mid ++ '\'' :: back)) :
    secret = mid := by
  have hrest := (List.cons_prefix_cons.mp h).2
  rw [← escapeQuotes_eq_self hmid] at hrest
  rcases eq_or_eq_append_of_starts hback hrest with rfl | ⟨rest, rfl⟩
  · rfl
  · simp at hmid

/-- Every character of a text stands in it when it is quoted. -/
theorem mem_singleQuoted {c : Char} {cs : List Char} (h : c ∈ cs) : c ∈ singleQuoted cs := by
  have hescaped : c ∈ escapeQuotes cs := by
    induction cs with
    | nil => cases h
    | cons d cs ih =>
      by_cases hd : d = '\''
      · rw [hd, escapeQuotes_quote]
        rcases List.mem_cons.mp h with rfl | hmem
        · rw [hd]
          exact List.mem_cons_self ..
        · have := ih hmem
          simp [this]
      · rw [escapeQuotes_cons hd]
        rcases List.mem_cons.mp h with rfl | hmem
        · exact List.mem_cons_self ..
        · exact List.mem_cons_of_mem _ (ih hmem)
  simp [singleQuoted, hescaped]

/-! ## Passing over -/

section

variable {secret new : List Char}

theorem singleQuoted_ne_nil (cs : List Char) : singleQuoted cs ≠ [] :=
  List.cons_ne_nil _ _

theorem replaced_singleQuoted_of_not_mem {front : List Char} (h : '\'' ∉ front)
    (back : List Char) :
    replaced (singleQuoted secret) new (front ++ back) =
      front ++ replaced (singleQuoted secret) new back :=
  replaced_append_of_not_mem rfl h back

/-- The secret between two quotes is replaced, and the quotes with it. -/
theorem replaced_singleQuoted_self (h : '\'' ∉ secret) (back : List Char) :
    replaced (singleQuoted secret) new ('\'' :: (secret ++ '\'' :: back)) =
      new ++ replaced (singleQuoted secret) new back := by
  have hsplit : '\'' :: (secret ++ '\'' :: back) = singleQuoted secret ++ back := by
    rw [singleQuoted_eq h]
    simp
  rw [hsplit, replaced_part_append (singleQuoted_ne_nil secret)]

/-- What stands between two quotes is passed over, to the closing one, unless it is the secret. -/
theorem replaced_singleQuoted_mid {mid back : List Char} (hmid : '\'' ∉ mid)
    (hback : back.head? ≠ some '\\') (hne : secret ≠ mid) :
    replaced (singleQuoted secret) new ('\'' :: (mid ++ '\'' :: back)) =
      '\'' :: (mid ++ replaced (singleQuoted secret) new ('\'' :: back)) := by
  have hfront : ¬ singleQuoted secret <+: '\'' :: (mid ++ '\'' :: back) := fun hp =>
    hne (eq_of_starts_singleQuoted hmid hback hp)
  rw [replaced_cons hfront, replaced_singleQuoted_of_not_mem hmid]

/-- The texts, each led by a quote. -/
def quoteLed (mids : List (List Char)) : List Char :=
  mids.flatMap ('\'' :: ·)

/-- A piece of a text between two quotes that is passed over. -/
structure IsPassed (secret mid : List Char) : Prop where
  unquoted : '\'' ∉ mid
  unescaped : mid.head? ≠ some '\\'
  other : secret ≠ mid

/-- A text cut at its quotes is passed over as long as no piece is the secret. -/
theorem replaced_singleQuoted_quoteLed {mids : List (List Char)} {back : List Char}
    (hmids : ∀ mid ∈ mids, IsPassed secret mid) (hback : back.head? ≠ some '\\') :
    replaced (singleQuoted secret) new (quoteLed mids ++ '\'' :: back) =
      quoteLed mids ++ replaced (singleQuoted secret) new ('\'' :: back) := by
  induction mids with
  | nil => rfl
  | cons mid mids ih =>
    have hrest := fun m hm => hmids m (List.mem_cons_of_mem _ hm)
    have hmid := hmids mid (List.mem_cons_self ..)
    -- The next piece, or what follows the last one, does not begin with a backslash.
    obtain ⟨next, hnext, hhead⟩ : ∃ next, quoteLed mids ++ '\'' :: back = '\'' :: next ∧
        next.head? ≠ some '\\' := by
      cases mids with
      | nil => exact ⟨back, rfl, hback⟩
      | cons m ms =>
        refine ⟨m ++ (quoteLed ms ++ '\'' :: back), by simp [quoteLed], ?_⟩
        cases m with
        | nil => cases ms <;> simp [quoteLed]
        | cons c m => exact (hrest _ (List.mem_cons_self ..)).unescaped
    have hsplit : quoteLed (mid :: mids) = '\'' :: (mid ++ quoteLed mids) := rfl
    rw [hsplit, List.cons_append, List.append_assoc, hnext,
      replaced_singleQuoted_mid hmid.unquoted hhead hmid.other, ← hnext, ih hrest,
      List.cons_append, List.append_assoc]

end

end HostAccounts.Shell
