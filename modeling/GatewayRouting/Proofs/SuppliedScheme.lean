import GatewayRouting.Proofs.TargetUrls

/-!
# Addresses with and without a scheme

An address that begins with a scheme is meant to be kept as it is, and any other one to be reached over
HTTPS. Whether HTTPS is supplied depends on the mark `://` alone, though, and that may also stand in the
path or in the query of an address without a scheme.

* `targetUrl_by_scheme` : what addresses lead to, and when an address without a scheme that holds the
  mark leads to what it is meant to;
* `refused_queryAddress` : a host with a URL in its query is refused.
-/

namespace GatewayRouting

namespace Url

/-! ## Schemes in front -/

/-- The name of a scheme: a letter, and behind it letters, digits, `+`, `-` and `.`. -/
def IsScheme (scheme : List Char) : Prop :=
  scheme.head?.any Char.isAlpha = true ∧ ∀ c ∈ scheme, isSchemeChar c = true

/-- A text begins with a scheme and the mark behind it. -/
def BeginsWithScheme (text : String) : Prop :=
  ∃ scheme rest, text.toList = scheme ++ ("://".toList ++ rest) ∧ IsScheme scheme

theorem BeginsWithScheme.mark_infix {text : String} (h : BeginsWithScheme text) :
    "://".toList <:+: text.toList := by
  rcases h with ⟨scheme, rest, htext, -⟩
  exact ⟨scheme, rest, by rw [htext, List.append_assoc]⟩

/-- The scheme in front, if there is one, is all that reads as one. -/
theorem beginsWithScheme_iff {text : String} :
    BeginsWithScheme text ↔
      text.toList.head?.any Char.isAlpha = true ∧
        "://".toList <+: text.toList.dropWhile isSchemeChar := by
  constructor
  · rintro ⟨scheme, rest, htext, hletter, hall⟩
    -- the mark begins with a colon, which belongs to no scheme
    rw [htext, List.dropWhile_append_of_pos hall]
    refine ⟨?_, rest, rfl⟩
    cases scheme with
    | nil => cases hletter
    | cons c cs => exact hletter
  · rintro ⟨hletter, rest, hrest⟩
    refine ⟨text.toList.takeWhile isSchemeChar, rest, ?_, ?_, ?_⟩
    · rw [hrest, List.takeWhile_append_dropWhile]
    · cases htext : text.toList with
      | nil =>
        rw [htext] at hletter
        cases hletter
      | cons c cs =>
        rw [htext] at hletter
        have halpha : c.isAlpha = true := hletter
        have hchar : isSchemeChar c = true := by
          simp [isSchemeChar, Char.isAlphanum, halpha]
        rw [List.takeWhile_cons_of_pos hchar]
        exact halpha
    · intro c hc
      exact List.mem_takeWhile_imp hc

instance : DecidablePred BeginsWithScheme := fun _ => decidable_of_iff _ beginsWithScheme_iff.symm

/-! ## Texts as URLs -/

/-- A text as a URL, or what is wrong with it. -/
def accept (text : String) : Except Error String :=
  match check text with
  | .ok () => .ok text
  | .error e => .error e

/-- Two texts lead to the same only if the same is wrong with them. -/
theorem accept_eq_accept_iff {a b : String} (h : a ≠ b) :
    accept a = accept b ↔ ∃ e, check a = .error e ∧ check b = .error e := by
  unfold accept
  cases check a <;> cases check b <;> simp [h, eq_comm]

end Url

/-! ## Addresses -/

variable {address : String}

theorem targetUrl_eq_accept (address : String) :
    targetUrl address = Url.accept (targetCandidate address) := by
  unfold targetUrl Url.accept
  cases Url.check (targetCandidate address) <;> rfl

theorem targetUrl_of_mark (h : "://".toList <:+: (Text.trim address).toList) :
    targetUrl address = Url.accept (Text.trim address) := by
  rw [targetUrl_eq_accept, targetCandidate_of_mark h]

theorem targetUrl_of_not_mark (h : ¬ "://".toList <:+: (Text.trim address).toList) :
    targetUrl address = Url.accept ("https://" ++ Text.trim address) := by
  rw [targetUrl_eq_accept, targetCandidate_of_not_mark h]

theorem ne_https_append (a : String) : a ≠ "https://" ++ a := by
  intro h
  have hlength := congrArg String.length h
  rw [String.length_append] at hlength
  have hhttps : "https://".length = 8 := rfl
  omega

/-- An address that begins with a scheme leads to itself, and one without the mark of a scheme to itself
over HTTPS, if these are URLs. An address that has the mark elsewhere leads to itself too; that is what it
leads to over HTTPS only where both are refused for the same reason. -/
theorem targetUrl_by_scheme (address : String) :
    (Url.BeginsWithScheme (Text.trim address) →
      targetUrl address = Url.accept (Text.trim address)) ∧
    (¬ "://".toList <:+: (Text.trim address).toList →
      ¬ Url.BeginsWithScheme (Text.trim address) ∧
        targetUrl address = Url.accept ("https://" ++ Text.trim address)) ∧
    (¬ Url.BeginsWithScheme (Text.trim address) → "://".toList <:+: (Text.trim address).toList →
      targetUrl address = Url.accept (Text.trim address) ∧
        (targetUrl address = Url.accept ("https://" ++ Text.trim address) ↔
          ∃ e, Url.check (Text.trim address) = .error e ∧
            Url.check ("https://" ++ Text.trim address) = .error e)) := by
  refine ⟨?_, ?_, ?_⟩
  · intro hscheme
    exact targetUrl_of_mark hscheme.mark_infix
  · intro hmark
    exact ⟨fun hscheme => hmark hscheme.mark_infix, targetUrl_of_not_mark hmark⟩
  · intro _ hmark
    refine ⟨targetUrl_of_mark hmark, ?_⟩
    rw [targetUrl_of_mark hmark]
    exact Url.accept_eq_accept_iff (ne_https_append _)

/-- A scheme in front, no mark at all, and a mark in a path behind a user that is refused in both ways. -/
theorem targetUrl_by_scheme_thrice :
    targetUrl " http://a.example " = .ok "http://a.example" ∧
      targetUrl "a.example" = .ok "https://a.example" ∧
      targetUrl "http:@/://a" = .error .emptyHost := by
  rcases targetUrl_by_scheme " http://a.example " with ⟨hscheme, -, -⟩
  rcases targetUrl_by_scheme "a.example" with ⟨-, hnone, -⟩
  rcases targetUrl_by_scheme "http:@/://a" with ⟨-, -, hmark⟩
  refine ⟨?_, ?_, ?_⟩
  · rw [hscheme (by decide +kernel)]
    decide +kernel
  · rw [(hnone (by decide +kernel)).2]
    decide +kernel
  · rcases hmark (by decide +kernel) (by decide +kernel) with ⟨-, hsame⟩
    rw [hsame.2 ⟨.emptyHost, by decide +kernel, by decide +kernel⟩]
    decide +kernel

/-- A host with a path and a query, in which a URL stands. -/
def queryAddress : String :=
  "fn.example.cloud/login?next=https://app.example"

/-- The address begins with no scheme and is a URL over HTTPS, but it is refused for want of a scheme. -/
theorem refused_queryAddress :
    ¬ Url.BeginsWithScheme (Text.trim queryAddress) ∧
      Url.accept ("https://" ++ Text.trim queryAddress) =
        .ok "https://fn.example.cloud/login?next=https://app.example" ∧
      targetUrl queryAddress = .error .missingScheme := by
  refine ⟨?_, ?_, ?_⟩ <;> decide +kernel

end GatewayRouting
