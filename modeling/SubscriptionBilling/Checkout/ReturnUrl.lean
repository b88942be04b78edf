import SubscriptionBilling.Settings
import SubscriptionBilling.Text.Digits
import SubscriptionBilling.Url.Basic

/-! Which return URLs a checkout may lead back to: hosts at or below an allowed domain, the host of
the web application, and the local machine outside production. -/
namespace SubscriptionBilling.ReturnUrl
open Text

/-- The local machine, with any port. -/
def isLocalhost (authority : String) : Bool :=
  match authority.toList with
  | 'l' :: 'o' :: 'c' :: 'a' :: 'l' :: 'h' :: 'o' :: 's' :: 't' :: rest =>
    match rest with
    | [] => true
    | ':' :: port => !port.isEmpty && port.all fun c => (digitValue? c).isSome
    | _ => false
  | _ => false

/-- An allow-list entry as a domain: lower case, without leading points. -/
def domainOf (suffix : String) : List Char := (lower suffix).toList.dropWhile (· = '.')

/-- Whether a host is a domain or lies below it. -/
def isAtOrBelow (domain host : List Char) : Bool :=
  !domain.isEmpty && (host = domain || ('.' :: domain).isSuffixOf host)

/-- `suffixes` and `allowLocalhost` come from the settings when they are not given; only then is
the web application's own host trusted too. Nothing is answered when that host is needed and
cannot be read. -/
def isTrusted? (s : Settings) (url : Option String) (suffixes : Option (List String))
    (allowLocalhost : Option Bool) : Option Bool :=
  match Url.split? (url.getD "") with
  | none => some false
  | some parts =>
    let host := parts.host
    let authority := lower parts.authority
    if (parts.scheme ≠ "http" ∧ parts.scheme ≠ "https") ∨ host.isEmpty then some false
    else if allowLocalhost.getD (!s.isProduction) && isLocalhost authority then some true
    else
      match suffixes with
      | some list => some (list.any fun d => isAtOrBelow (domainOf d) host.toList)
      | none =>
        match Url.split? s.webUrl with
        | none => none
        | some web =>
          some (authority = lower web.authority ||
            s.checkoutAllowedHostSuffixes.any fun d => isAtOrBelow (domainOf d) host.toList)

end SubscriptionBilling.ReturnUrl
