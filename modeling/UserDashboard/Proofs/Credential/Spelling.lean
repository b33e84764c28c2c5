/-
This file proves that all spellings of a token are one credential.

A token may be presented with the scheme before it, with any blanks around it and between the two,
or without the scheme. The scheme is taken off where a blank follows it or nothing does, and nowhere
else, so whoever presents a token that does not itself begin like this is looked up, verified and
remembered under the token, however it was spelled. These spellings are also the only ones: no other
text presents the token.
-/

import UserDashboard.Proofs.Credential.Cache
import UserDashboard.Proofs.Text.Blank

namespace UserDashboard.Credential

open Cache Text Time

/-- A text begins with a scheme, and a blank follows it or nothing does. -/
def Opens (scheme text : List Char) : Prop :=
  ∃ rest, text = scheme ++ rest ∧ ∀ next ∈ rest.head?, isBlank next

theorem opens_iff {scheme text : List Char} : Opens scheme text ↔
    (afterBeginning? scheme text).any fun rest => rest.head?.all isBlank := by
  simp [Opens, Option.any_eq_true, Option.all_eq_true, afterBeginning?_eq_some_iff]

instance (scheme text : List Char) : Decidable (Opens scheme text) :=
  decidable_of_iff' _ opens_iff

/-- The texts that present a token, with or without a scheme. -/
inductive Spelling (scheme token : String) : String → Prop where
  /-- There are only blanks around the token. -/
  | plain {before after : String} (blanksBefore : IsBlanks before.toList)
      (blanksAfter : IsBlanks after.toList) : Spelling scheme token (before ++ token ++ after)
  /-- The scheme stands before the token, with at least one blank between the two. -/
  | schemed {before between after : String} (blanksBefore : IsBlanks before.toList)
      (blanksBetween : IsBlanks between.toList) (separated : between ≠ "")
      (blanksAfter : IsBlanks after.toList) :
      Spelling scheme token (before ++ scheme ++ between ++ token ++ after)

namespace CredentialCache

variable {scheme raw rest : List Char} {cache : CredentialCache} {now : Moment}

/-! ### Taking the scheme off -/

theorem tokenIn_of_opens (named : trim scheme ≠ []) (cut : trim raw = trim scheme ++ rest)
    (apart : ∀ next ∈ rest.head?, isBlank next) : tokenIn scheme raw = trim rest := by
  have begins := afterBeginning?_eq_some_iff.mpr cut
  unfold tokenIn
  simp only [List.isEmpty_iff, if_neg named, begins]
  cases rest with
  | nil => rfl
  | cons next later =>
    have blank := apart next rfl
    have lost : trim (next :: later) = trim later := by
      unfold trim trimStart
      rw [List.dropWhile_cons_of_pos blank]
    rw [lost]
    exact if_pos blank

/-- A text that does not begin with the scheme, or goes on after it without a blank, is left as it
is. -/
theorem tokenIn_of_not_opens (unopened : ¬Opens (trim scheme) (trim raw)) :
    tokenIn scheme raw = trim raw := by
  unfold tokenIn
  simp only
  split
  · rfl
  · split
    · rename_i begins
      exact absurd ⟨[], afterBeginning?_eq_some_iff.mp begins, nofun⟩ unopened
    · rename_i next later begins
      refine if_neg fun blank => unopened ⟨_, afterBeginning?_eq_some_iff.mp begins, ?_⟩
      intro other same
      rwa [← Option.some.inj same]
    · rfl

/-- A text is looked up by the token that it presents and by nothing else. -/
theorem resolve_congr {raw other : String}
    (same : presented cache.scheme raw = presented cache.scheme other) :
    cache.resolve now raw = cache.resolve now other := by
  unfold resolve
  rw [String.ofList_injective same]

theorem resolve_of_nothing {raw : String}
    (nothing : tokenIn cache.scheme.toList raw.toList = []) :
    cache.resolve now raw = (some (.error (.malformed "credential is empty")), cache) := by
  unfold resolve
  rw [nothing]

/-! ### Spellings -/

variable {scheme token raw : String}

theorem trimText_eq_iff : trimText raw = token ↔ trim raw.toList = token.toList :=
  ⟨fun same => by rw [← same, trimText, String.toList_ofList],
    fun same => by rw [trimText, same, String.ofList_toList]⟩

theorem presented_eq_iff :
    presented cache.scheme raw = token ↔
      tokenIn cache.scheme.toList raw.toList = token.toList :=
  ⟨fun same => by rw [← same, presented, String.toList_ofList],
    fun same => by rw [presented, same, String.ofList_toList]⟩

theorem toList_ne_nil (filled : token ≠ "") : token.toList ≠ [] :=
  fun empty => filled (String.toList_injective empty)

/-- Every spelling of a token presents it. -/
theorem presented_of_spelling (set : trimText cache.scheme = scheme) (named : scheme ≠ "")
    (something : token ≠ "") (trimmed : IsTrimmed token.toList)
    (unopened : ¬Opens scheme.toList token.toList) (spelling : Spelling scheme token raw) :
    presented cache.scheme raw = token := by
  rw [trimText_eq_iff] at set
  rw [presented_eq_iff]
  cases spelling with
  | @plain before after blanksBefore blanksAfter =>
    have left : trim (before ++ token ++ after).toList = token.toList := by
      rw [String.toList_append, String.toList_append, trim_append blanksBefore blanksAfter,
        trim_eq_self trimmed]
    rw [tokenIn_of_not_opens (by rwa [set, left]), left]
  | @schemed before between after blanksBefore blanksBetween separated blanksAfter =>
    obtain ⟨-, -, -, -, -, isTrimmed⟩ := exists_trim cache.scheme.toList
    rw [set] at isTrimmed
    have whole : IsTrimmed (scheme.toList ++ between.toList ++ token.toList) :=
      isTrimmed.append (toList_ne_nil named) between.toList trimmed (toList_ne_nil something)
    have left : trim (before ++ scheme ++ between ++ token ++ after).toList =
        trim cache.scheme.toList ++ (between.toList ++ token.toList) := by
      rw [set, ← List.append_assoc, ← trim_eq_self whole,
        ← trim_append blanksBefore blanksAfter (scheme.toList ++ between.toList ++ token.toList)]
      simp only [String.toList_append, List.append_assoc]
    have begins : ∀ next ∈ (between.toList ++ token.toList).head?, isBlank next := by
      obtain ⟨first, rest, filled⟩ := List.exists_cons_of_ne_nil (toList_ne_nil separated)
      rw [filled] at blanksBetween ⊢
      intro next same
      rw [← Option.some.inj same]
      exact blanksBetween first List.mem_cons_self
    rw [tokenIn_of_opens (set ▸ toList_ne_nil named) left begins,
      ← List.append_nil (between.toList ++ token.toList),
      trim_append blanksBetween isBlanks_nil, trim_eq_self trimmed]

/-- Whatever presents a token is a spelling of it. -/
theorem spelling_of_presented (set : trimText cache.scheme = scheme) (named : scheme ≠ "")
    (something : token ≠ "") (shown : presented cache.scheme raw = token) :
    Spelling scheme token raw := by
  rw [trimText_eq_iff] at set
  rw [presented_eq_iff] at shown
  obtain ⟨before, after, blanksBefore, blanksAfter, around, -⟩ := exists_trim raw.toList
  by_cases opened : Opens (trim cache.scheme.toList) (trim raw.toList)
  · obtain ⟨rest, cut, apart⟩ := opened
    rw [tokenIn_of_opens (set ▸ toList_ne_nil named) cut apart] at shown
    obtain ⟨between, trail, blanksBetween, blanksTrail, within, isTrimmed⟩ := exists_trim rest
    rw [shown] at within isTrimmed
    rw [set] at cut
    have separated : String.ofList between ≠ "" := by
      intro nothing
      obtain rfl : between = [] := String.ofList_injective nothing
      obtain ⟨first, later, filled⟩ := List.exists_cons_of_ne_nil (toList_ne_nil something)
      rw [filled] at within isTrimmed
      rw [within] at apart
      exact isTrimmed.first first rfl (apart first rfl)
    have spelled : raw = String.ofList before ++ scheme ++ String.ofList between ++ token ++
        String.ofList (trail ++ after) := by
      refine String.toList_injective ?_
      simp only [String.toList_append, String.toList_ofList]
      rw [around, cut, within]
      simp only [List.append_assoc]
    rw [spelled]
    refine .schemed ?_ ?_ separated ?_ <;> rw [String.toList_ofList]
    · exact blanksBefore
    · exact blanksBetween
    · exact List.forall_mem_append.mpr ⟨blanksTrail, blanksAfter⟩
  · rw [tokenIn_of_not_opens opened] at shown
    have spelled : raw = String.ofList before ++ token ++ String.ofList after := by
      refine String.toList_injective ?_
      simp only [String.toList_append, String.toList_ofList]
      rw [← shown]
      exact around
    rw [spelled]
    refine .plain ?_ ?_ <;> rw [String.toList_ofList]
    · exact blanksBefore
    · exact blanksAfter

/-- Blanks alone present nothing, nor does a scheme with blanks around it. -/
theorem tokenIn_of_bare {before after : String} (set : trimText cache.scheme = scheme)
    (named : scheme ≠ "") (blanksBefore : IsBlanks before.toList)
    (blanksAfter : IsBlanks after.toList) :
    tokenIn cache.scheme.toList (before ++ scheme ++ after).toList = [] ∧
      tokenIn cache.scheme.toList (before ++ after).toList = [] := by
  rw [trimText_eq_iff] at set
  constructor
  · obtain ⟨-, -, -, -, -, isTrimmed⟩ := exists_trim cache.scheme.toList
    have left : trim (before ++ scheme ++ after).toList = trim cache.scheme.toList ++ [] := by
      rw [String.toList_append, String.toList_append, trim_append blanksBefore blanksAfter,
        List.append_nil, ← set, trim_eq_self isTrimmed]
    exact tokenIn_of_opens (set ▸ toList_ne_nil named) left nofun
  · have left : trim (before ++ after).toList = [] := by
      rw [String.toList_append]
      exact trim_of_blanks (List.forall_mem_append.mpr ⟨blanksBefore, blanksAfter⟩)
    have unopened : ¬Opens (trim cache.scheme.toList) [] := by
      rintro ⟨rest, cut, -⟩
      rw [set] at cut
      exact toList_ne_nil named (List.append_eq_nil_iff.mp cut.symm).1
    rw [tokenIn_of_not_opens (left ▸ unopened), left]

/-- All spellings of a token are one credential. For every scheme that is not blank and every token
that has no blanks around it and does not itself begin with the scheme and a blank or nothing after
it: whichever of its spellings is presented, the token is looked up under the same fingerprint, and
the answer and the cache afterwards are those of presenting the token as it is; and the spellings of
the token are all the texts that present it. The scheme alone and nothing at all, with any blanks
around them, are malformed and leave the cache as it is. A text that goes on after the scheme
without a blank is looked up whole. -/
theorem spellings_agree (cache : CredentialCache) (now : Moment)
    (set : trimText cache.scheme = scheme) (named : scheme ≠ "") (something : token ≠ "")
    (trimmed : trimText token = token) (unopened : ¬Opens scheme.toList token.toList) :
    (∀ raw, Spelling scheme token raw → cache.resolve now raw = cache.resolve now token ∧
      Fingerprint.of (presented cache.scheme raw) = .of token) ∧
    (∀ raw, presented cache.scheme raw = token ↔ Spelling scheme token raw) ∧
    (∀ before after : String, IsBlanks before.toList → IsBlanks after.toList →
      cache.resolve now (before ++ scheme ++ after) =
          (some (.error (.malformed "credential is empty")), cache) ∧
        cache.resolve now (before ++ after) =
          (some (.error (.malformed "credential is empty")), cache)) ∧
    ∀ raw next rest, (trimText raw).toList = scheme.toList ++ next :: rest → ¬isBlank next →
      presented cache.scheme raw = trimText raw := by
  have isTrimmed : IsTrimmed token.toList := isTrimmed_iff.mpr (trimText_eq_iff.mp trimmed)
  have presents {raw : String} (spelling : Spelling scheme token raw) :
      presented cache.scheme raw = token :=
    presented_of_spelling set named something isTrimmed unopened spelling
  have plain : Spelling scheme token token := by
    have bare : Spelling scheme token ("" ++ token ++ "") := .plain isBlanks_nil isBlanks_nil
    rwa [String.empty_append, String.append_empty] at bare
  refine ⟨fun raw spelling => ⟨?_, ?_⟩, fun raw => ⟨?_, presents⟩, ?_, ?_⟩
  · exact resolve_congr ((presents spelling).trans (presents plain).symm)
  · rw [presents spelling]
  · exact spelling_of_presented set named something
  · intro before after blanksBefore blanksAfter
    obtain ⟨schemeOnly, blanksOnly⟩ := tokenIn_of_bare set named blanksBefore blanksAfter
    exact ⟨resolve_of_nothing schemeOnly, resolve_of_nothing blanksOnly⟩
  · intro raw next rest begins apart
    rw [trimText, String.toList_ofList] at begins
    have whole : ¬Opens (trim cache.scheme.toList) (trim raw.toList) := by
      rintro ⟨other, cut, blank⟩
      rw [trimText_eq_iff.mp set, begins] at cut
      rw [← List.append_cancel_left cut] at blank
      exact apart (blank next rfl)
    rw [presented, tokenIn_of_not_opens whole, trimText]

/-- A scheme of two words is taken off before a token that begins with the same letters, whatever
blanks stand around and between them, and is not taken off where the token is on its own. -/
theorem spellings_agree_of_keyring :
    ∃ cache : CredentialCache, trimText cache.scheme = "Api Key" ∧
      trimText "Api Keyring" = "Api Keyring" ∧ ¬Opens "Api Key".toList "Api Keyring".toList ∧
      cache.resolve 0 ("\u3000" ++ "Api Key" ++ "\u00a0\n" ++ "Api Keyring" ++ "\u2003") =
        cache.resolve 0 "Api Keyring" ∧
      presented cache.scheme ("" ++ "Api Keyring" ++ "\t") = "Api Keyring" := by
  let cache : CredentialCache := .new ⟨.hs256, [1, 1, 1, 1]⟩ " Api Key\t" (.ofSeconds 300) 10
  have set : trimText cache.scheme = "Api Key" := by decide +kernel
  have trimmed : trimText "Api Keyring" = "Api Keyring" := by decide +kernel
  have unopened : ¬Opens "Api Key".toList "Api Keyring".toList := by decide +kernel
  obtain ⟨agree, presents, -⟩ :=
    spellings_agree cache 0 set (by decide) (by decide) trimmed unopened
  have schemed : Spelling "Api Key" "Api Keyring"
      ("\u3000" ++ "Api Key" ++ "\u00a0\n" ++ "Api Keyring" ++ "\u2003") :=
    .schemed (by decide +kernel) (by decide +kernel) (by decide) (by decide +kernel)
  have plain : Spelling "Api Key" "Api Keyring" ("" ++ "Api Keyring" ++ "\t") :=
    .plain isBlanks_nil (by decide +kernel)
  exact ⟨cache, set, trimmed, unopened, (agree _ schemed).1, (presents _).mpr plain⟩

end CredentialCache

end UserDashboard.Credential
