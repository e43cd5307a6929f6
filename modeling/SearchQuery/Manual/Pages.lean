/-!
# Pages of the manual

What the manual says: an overview, and a page for each category.
-/

namespace SearchQuery.Manual

/-- The page that lists the categories. -/
def overview : String :=
"SIFT DOCUMENTATION

Sift is a search query language in the style of Lucene: free text, key:value
pairs, comparisons, ranges, lists, wildcards and AND/OR/NOT, decoded into a
tree that can be cast under a schema and matched against JSON documents.

DOCUMENTATION CATEGORIES

  syntax            Words, quotes, pairs, wildcards and pins
  operators         Comparison operators and what they apply to
  ranges            Ranges with open ends, and comma lists
  logic             AND, OR, NOT and parenthesized groups
  types             Schema files, field types and enums
  dates             Full, partial and keyword (@today) dates and times
  query-lists       The JSON query-list format used by decode/encode

QUICK REFERENCE

  word              Free-text term
  \"two words\"       Quoted term
  key:value         Pair
  age:>=21          Comparison
  age:18..65        Range (either end may be left open)
  tag:a,b,c         List
  name:jo*          Partial with wildcard (* any run, ? one char)
  a OR (b AND c)    Logic and grouping
  a:>^b             Pin: compare field a to field b

Run 'sift doc <category>' for detailed documentation.
"

/-- Words, quotes, pairs, patterns and pins. -/
def termsPage : String :=
"SYNTAX - Terms and Pairs

WORDS
  Letters, digits and the characters @ - _ . make up a word. Letters from
  Latin, Greek and Cyrillic scripts are word characters too.

    Example:
      jo   2020-01-01   user@example.com

QUOTES
  \"text with spaces\"
    Anything between double quotes. Escapes:
      \\\"  \\\\  \\n  \\r  \\t  \\0  \\f  \\b  \\v  \\s
      \\u00e9   \\u\x7b1F600\x7d
    Any other escaped character stands for itself, so \\. is a dot.

    Constraints:
      - A quote must be closed before the end of input
      - Times need quotes under a comparison: at:<=\"18:26:12\"

PAIRS
  key:value
    Restricts a term to one field. The value may be any term, including a
    comparison, range, list or group.

    Example:
      name:jo   status:(open OR pending)

WILDCARDS
  *   any run of characters
  ?   exactly one character

    A value built from two or more pieces becomes a partial:
      name:jo*   code:A?-1   name:\"van \"*

PINS
  ^field
    Refers to another field instead of a literal.

    Example:
      updated_at:>^inserted_at

NULL
  NULL in any letter case matches a missing or null field.
"

/-- Comparison operators and their operands. -/
def operatorsPage : String :=
"OPERATORS - Comparisons

  >     greater than            age:>21
  >=    greater or equal        age:>=21
  <     less than               age:<65
  <=    less or equal           age:<=65
  =     equal                   name:=jo
  !     not equal               status:!closed
  ~     contains (any case)     title:~rust
  !~    does not contain        title:!~draft

OPERANDS
  An operator applies to the next term: a word, quote, pin, partial or a
  parenthesized group.

    status:!(closed,archived)    neither closed nor archived
    score:>=^threshold           compare two fields

  An operator with nothing after it is an error.
"

/-- Ranges and lists. -/
def rangesPage : String :=
"RANGES - Ranges and Lists

RANGES
  start..end
    Inclusive on both ends. Leave a side empty for an open end.

    Examples:
      age:18..65       between 18 and 65
      age:18..         18 or more
      age:..65         65 or less
      age:..           anything

  Partial dates widen to the span they cover:
      created:2020..2021-06
    starts at 2020-01-01T00:00:00 and ends at 2021-06-30T23:59:59.999999.

LISTS
  a,b,c
    Matches any of the values.

    Examples:
      tag:rust,go
      status:!(closed,archived)
"

/-- Keywords and groups. -/
def logicPage : String :=
"LOGIC - AND, OR, NOT and Groups

  Terms separated by spaces must all match.

  a AND b     both
  a OR b      either
  NOT a       not a

  The keywords are case-insensitive. AND and OR take everything to their
  right, NOT takes a single term:

    a AND b c          a AND (b c)
    a OR b AND c       a OR (b AND c)
    NOT a b            (NOT a) b

  Use parentheses to group:

    (a OR b) c
    status:(open OR pending)

  An operator without an operand on each side is an error.
"

/-- Schemas and the types of fields. -/
def typesPage : String :=
"TYPES - Schemas

  With --schema FILE (or SIFT_SCHEMA) every key must be declared, and
  values are cast to the declared type before matching.

SCHEMA FILE
  \x7b\"fields\": \x7b
     \"name\":    \x7b\"type\": \"string\"\x7d,
     \"age\":     \x7b\"type\": \"integer\"\x7d,
     \"status\":  \x7b\"enum\": \x7b\"name\": \"Status\", \"values\": [\"open\", \"closed\"]\x7d\x7d,
     \"created\": \x7b\"type\": \"utc_datetime\", \"source\": \"inserted_at\"\x7d
  \x7d\x7d

  source    the document field the key reads (defaults to the key)

TYPES
  string atom             any text
  integer float decimal   numbers
  boolean                 true false 1 0, any case
  uuid binary_id          hyphenated UUIDs
  ulid                    26 Crockford base32 characters
  date time               2020-03-04, 18:26:12
  naive_datetime          2020-03-04T18:26:12
  utc_datetime            2020-03-04T18:26:12Z

  Unknown keys are rejected with suggestions:
    unknown field `nme`, did you mean `name`?
"

/-- Full, partial and relative dates and times. -/
def datesPage : String :=
"DATES - Dates and Times

FULL FORMS
  2020-03-04   18:26:12   2020-03-04T18:26:12Z

PARTIAL FORMS
  2020   2020-03   18   18:26   2020-03-04T18

  A partial value covers a span. In a range the start uses the first
  instant and the end uses the last. Comparisons pick the side that keeps
  their meaning: >2020 means after 2020 ends, >=2020 from when it starts.

KEYWORDS
  Keywords start with @ and are resolved against the current time
  (--now or SIFT_NOW to pin it).

    @now @today @yesterday @tomorrow
    @next-week  @last-month  @previous-year
    @3-days-ago   @2-hours-later
    @3-days-and-2-weeks-ago
    @6-hours-till-now   @1-day-from-tomorrow

  Units: second minute hour day week month year decade century
  millennium, singular or plural.
"

/-- Queries as JSON. -/
def queryListsPage : String :=
"QUERY LISTS - JSON Form

  'sift decode' prints a query as a JSON list, 'sift encode' reads one.

  [
    \x7b\"key\": \"name\", \"value\": \x7b\"$partial\": [\"jo\", \x7b\"$wildcard\": true\x7d]\x7d\x7d,
    \x7b\"key\": \"age\", \"op\": \"gte\", \"value\": \"21\"\x7d,
    \x7b\"key\": \"tags\", \"op\": \"in\", \"value\": [\"a\", \"b\"]\x7d,
    \x7b\"key\": \"age\", \"value\": \x7b\"$range\": [\"18\", \x7b\"$infinity\": true\x7d]\x7d\x7d,
    \x7b\"value\": \"free text\"\x7d
  ]

OPERATORS
  gt gte lt lte eq neq in fuzz nfuzz

MARKERS
  \x7b\"$wildcard\": true\x7d   \x7b\"$any_char\": true\x7d   \x7b\"$infinity\": true\x7d
  \x7b\"$partial\": [..]\x7d    \x7b\"$range\": [a, b]\x7d    \x7b\"$group\": [..]\x7d
  \x7b\"$pin\": \"field\"\x7d     \x7b\"$quote\": \"text\"\x7d

  A quoted key keeps its quotes as \x7b\"key\": \x7b\"$quote\": \"name\"\x7d, ...\x7d.

  AND, OR and NOT have no query-list form.
"

end SearchQuery.Manual
