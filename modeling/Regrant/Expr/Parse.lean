import Regrant.Expr.Tokenize

/-!
# Reading an expression

    expression  = disjunction ("?" expression ":" expression)?
    disjunction = conjunction ("||" conjunction)*
    conjunction = comparison ("&&" comparison)*
    comparison  = sum (("==" | "!=" | ">" | "<" | ">=" | "<=" | "in") sum)?
    sum         = negation ("+" negation)*
    negation    = "!" negation | postfix
    postfix     = primary ("." name ("(" arguments ")")?)*
    primary     = literal | name ("(" arguments ")")? | "[" arguments "]" | "(" expression ")"

Each rule is a parser built from the parsers of the rules below it.  Where a rule comes back to
`expression` it has consumed a token, so `expression n` reads every list of at most `n` tokens: it
refers to `expression (n - 1)` only.
-/

namespace Regrant.Expr

/-- Reads an expression at the start of a list of tokens and answers what follows it. -/
abbrev Parser := List Token → Except SyntaxFault (Expr × List Token)

/-! ### Operators -/

/-- The operands that follow `left`, joined to it from left to right. -/
def joined (joint : Token) (op : BinaryOp) (operand : Parser) :
    Nat → Expr → List Token → Except SyntaxFault (Expr × List Token)
  | n + 1, left, t :: ts =>
    if t = joint then
      match operand ts with
      | .error e => .error e
      | .ok (right, rest) => joined joint op operand n (.binary op left right) rest
    else .ok (left, t :: ts)
  | _, left, ts => .ok (left, ts)

/-- Operands with the token `joint` between them. -/
def chain (joint : Token) (op : BinaryOp) (operand : Parser) : Parser := fun ts =>
  match operand ts with
  | .error e => .error e
  | .ok (left, rest) => joined joint op operand rest.length left rest

/-- What a comparing token makes of its two sides. -/
def comparator? : Token → Option (Expr → Expr → Expr)
  | .eq => some (.binary .eq)
  | .ne => some (.binary .ne)
  | .gt => some (.binary .gt)
  | .lt => some (.binary .lt)
  | .ge => some (.binary .ge)
  | .le => some (.binary .le)
  | .isIn => some .member
  | _ => none

/-- One operand, or two with a comparing token between them. -/
def comparison (operand : Parser) : Parser := fun ts =>
  match operand ts with
  | .error e => .error e
  | .ok (left, rest) => match rest with
    | [] => .ok (left, [])
    | t :: rest' => match comparator? t with
      | none => .ok (left, rest)
      | some compare => match operand rest' with
        | .error e => .error e
        | .ok (right, rest) => .ok (compare left right, rest)

def negation (operand : Parser) : Parser
  | .not :: ts => match negation operand ts with
    | .error e => .error e
    | .ok (e, rest) => .ok (.not e, rest)
  | ts => operand ts

/-- A condition, alone or with the two expressions that it chooses from. -/
def conditionalOr (whole condition : Parser) : Parser := fun ts =>
  match condition ts with
  | .error e => .error e
  | .ok (c, .question :: rest) => match whole rest with
    | .error e => .error e
    | .ok (a, .colon :: rest) => match whole rest with
      | .error e => .error e
      | .ok (b, rest) => .ok (.conditional c a b, rest)
    | .ok _ => .error .missingColon
  | .ok (c, rest) => .ok (c, rest)

/-! ### Calls and fields -/

/-- Expressions with commas between them up to the token `close`, which is consumed. -/
def items (whole : Parser) (close : Token) :
    Nat → List Token → Except SyntaxFault (List Expr × List Token)
  | 0, _ => .error (.unexpectedToken none)
  | n + 1, ts => match whole ts with
    | .error e => .error e
    | .ok (e, .comma :: rest) => match items whole close n rest with
      | .error e => .error e
      | .ok (es, rest) => .ok (e :: es, rest)
    | .ok (e, t :: rest) =>
      if t = close then .ok ([e], rest) else .error (.unclosedArguments close)
    | .ok (_, []) => .error (.unclosedArguments close)

/-- Any number of expressions up to the token `close`. -/
def arguments (whole : Parser) (close : Token) (ts : List Token) :
    Except SyntaxFault (List Expr × List Token) :=
  match ts with
  | t :: rest => if t = close then .ok ([], rest) else items whole close ts.length ts
  | [] => items whole close 0 []

/-- The call of the function called `name`, which has to take as many arguments. -/
def ofCall (name : String) (args : List Expr) : Except SyntaxFault Expr :=
  match Function.ofName? name with
  | none => .error (.unknownFunction name)
  | some f =>
    if args.length = f.arity then .ok (.call f args)
    else .error (.wrongArity name f.arity args.length)

/-- A field below a variable. -/
def ofField (name : String) : Expr → Except SyntaxFault Expr
  | .path root fields => .ok (.path root (fields ++ [name]))
  | _ => .error (.fieldOfValue name)

/-- The fields and calls that follow `e`. -/
def suffixes (whole : Parser) : Nat → Expr → List Token → Except SyntaxFault (Expr × List Token)
  | n + 1, e, .dot :: .ident name :: .openParen :: ts =>
    match arguments whole .closeParen ts with
    | .error fault => .error fault
    | .ok (args, rest) => match ofCall name (e :: args) with
      | .error fault => .error fault
      | .ok called => suffixes whole n called rest
  | n + 1, e, .dot :: .ident name :: ts =>
    match ofField name e with
    | .error fault => .error fault
    | .ok field => suffixes whole n field ts
  | _ + 1, _, .dot :: _ => .error .missingFieldName
  | _, e, ts => .ok (e, ts)

def primary (whole : Parser) : Parser
  | .int n :: ts => .ok (.literal (.int n), ts)
  | .float x :: ts => .ok (.literal (.float x), ts)
  | .text s :: ts => .ok (.literal (.text s), ts)
  | .true :: ts => .ok (.literal (.bool true), ts)
  | .false :: ts => .ok (.literal (.bool false), ts)
  | .null :: ts => .ok (.literal .null, ts)
  | .ident name :: .openParen :: ts =>
    match arguments whole .closeParen ts with
    | .error e => .error e
    | .ok (args, rest) => match ofCall name args with
      | .error e => .error e
      | .ok e => .ok (e, rest)
  | .ident name :: ts => .ok (.path name [], ts)
  | .openBracket :: ts =>
    match arguments whole .closeBracket ts with
    | .error e => .error e
    | .ok (es, rest) => .ok (.list es, rest)
  | .openParen :: ts =>
    match whole ts with
    | .error e => .error e
    | .ok (e, .closeParen :: rest) => .ok (e, rest)
    | .ok _ => .error .missingCloseParen
  | t :: _ => .error (.unexpectedToken (some t))
  | [] => .error (.unexpectedToken none)

def postfixed (whole : Parser) : Parser := fun ts =>
  match primary whole ts with
  | .error e => .error e
  | .ok (e, rest) => suffixes whole rest.length e rest

/-! ### Expressions -/

def sum (whole : Parser) : Parser := chain .plus .add (negation (postfixed whole))

def conjunction (whole : Parser) : Parser := chain .and .and (comparison (sum whole))

def disjunction (whole : Parser) : Parser := chain .or .or (conjunction whole)

/-- Reads an expression at the start of a list of at most so many tokens. -/
def expression : Nat → Parser
  | 0 => fun _ => .error (.unexpectedToken none)
  | n + 1 => conditionalOr (expression n) (disjunction (expression n))

/-- The expression that a list of tokens spells. -/
def ofTokens : List Token → Except SyntaxFault Expr
  | [] => .error .empty
  | ts => match expression ts.length ts with
    | .error e => .error e
    | .ok (e, []) => .ok e
    | .ok (_, t :: _) => .error (.trailingToken t)

/-- The expression that a text spells. -/
def parse (source : String) : Except SyntaxFault Expr :=
  match Token.tokenize source.toList with
  | .error e => .error e
  | .ok ts => ofTokens ts

end Regrant.Expr
