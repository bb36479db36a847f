import SiteAudit.Display.Format
import SiteAudit.Record.Rule
import SiteAudit.Site.Trace

/-!
# Showing traces

Which rule decides on the traffic between two networks, and how. Where no rule
decides, the default policy does.
-/

namespace SiteAudit

/-- What becomes of the traffic, in a few words. -/
def Verdict.summary (v : Verdict) : String :=
  if v.effective.isNone then "no matching rule (default policy applies)"
  else if v.allowed then "allowed"
  else if v.blocked then "blocked"
  else "blocked (established/related only)"

/-- A rule in one line. -/
def Rule.brief (r : Rule) : String :=
  r.name ++ " [" ++ r.id ++ "] (" ++ r.action.text ++ ", index " ++
    Numeral.signedDecimal r.index ++ ")"

/-- What names a rule, as JSON. -/
def Rule.reference (r : Rule) : Json :=
  .object
    [("id", .string r.id), ("name", .string r.name), ("index", .int r.index),
      ("action", .string r.action.text)]

/-- A question about the traffic between two networks. -/
structure TraceQuery where
  source : Network
  destination : Network
  filter : TrafficFilter
  /-- Only fresh connections count. -/
  newOnly : Bool

namespace TraceQuery

/-- What a site answers. -/
def verdict (q : TraceQuery) (site : Site) : Verdict :=
  site.trace q.source q.destination q.filter q.newOnly

/-- The question and the answer, one line for each part. -/
def detail (q : TraceQuery) (v : Verdict) : String :=
  Text.joinWith "\n"
    ["From:       " ++ q.source.name,
      "To:         " ++ q.destination.name,
      "Protocol:   " ++ q.filter.protocol.elim "any" Protocol.name,
      "Port:       " ++ q.filter.port.getD "any",
      "Verdict:    " ++ v.summary,
      "Effective:  " ++ v.effective.elim "-" Rule.brief,
      "Eclipsed:   " ++ v.eclipsed.elim "-" Rule.brief]

/-- The question and an answer as they are shown. -/
def view (q : TraceQuery) (v : Verdict) : View where
  table := q.detail v
  value :=
    .object
      [("from", .string q.source.name),
        ("to", .string q.destination.name),
        ("protocol", .ofOption Protocol.toJson q.filter.protocol),
        ("port", .ofOption .string q.filter.port),
        ("new_connections", .bool q.newOnly),
        ("verdict", .string v.summary),
        ("effective_rule", .ofOption Rule.reference v.effective),
        ("eclipsed_rule", .ofOption Rule.reference v.eclipsed)]
  plain := v.summary

end TraceQuery

end SiteAudit
