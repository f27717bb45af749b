import SqlComposer.Builder.Basic

/-!
The calls that make up a statement, as data. Where a call takes a group of conditions or a
sub-select, it holds the steps that build it.
-/

namespace SqlComposer

mutual

inductive Step where
  | fresh
  | table (name : String)
  | source (name : String)
  | sourceRaw (raw : RawSql)
  | sourceSub (sub : SubSelect) (label : String)
  | select (columns : List String)
  | addSelect (columns : List String)
  | selectRaw (raw : RawSql)
  | selectSub (sub : SubSelect) (label : String)
  | distinct (distinct : Distinct)
  | groupBy (columns : List String)
  | groupByRaw (raw : RawSql)
  | orderBy (column : String) (direction : Direction)
  | orderByRaw (raw : RawSql)
  | orderBySub (sub : SubSelect) (direction : Direction)
  | randomOrder
  | reorder
  | limit (n : UInt64)
  | offset (n : UInt64)
  | page (page perPage : UInt64)
  | lock (lock : Lock)
  | union (all : Bool) (sub : SubSelect)
  | join (kind : JoinKind) (table first operator second : String)
  | crossJoin (table : String)
  | joinWith (kind : JoinKind) (table : String) (steps : List Step)
  | joinSub (kind : JoinKind) (sub : SubSelect) (label first operator second : String)
  | on (connector : Connector) (first operator second : String)
  | compare (connector : Connector) (column : String) (arguments : List Operand)
  | nested (connector : Connector) (steps : List Step)
  | conditionRaw (connector : Connector) (raw : RawSql)
  | between (connector : Connector) (column : String) (low high : Operand) (negated : Bool)
  | inList (connector : Connector) (column : String) (operands : List Operand) (negated : Bool)
  | inSub (column : String) (sub : SubSelect) (negated : Bool)
  | isNull (connector : Connector) (column : String) (negated : Bool)
  | compareColumns (connector : Connector) (first : String) (arguments : List Operand)
  | holdsRow (connector : Connector) (sub : SubSelect) (negated : Bool)
  | compareSub (column operator : String) (sub : SubSelect)
  | compareDate (connector : Connector) (part : DatePart) (column : String)
      (arguments : List Operand)
  | having (connector : Connector) (column : String) (arguments : List Operand)
  | havingRaw (connector : Connector) (raw : RawSql)
  | havingBetween (column : String) (low high : Operand)
  | havingNull (column : String) (negated : Bool)

/-- How a sub-select comes about: built on the spot from an empty statement, handed in ready
made in a setting of its own, or handed in as an extended copy of the builder itself. -/
inductive SubSelect where
  | inPlace (steps : List Step)
  | made (setting : Setting) (steps : List Step)
  | copied (steps : List Step)

end

/-- Whether the sub-select is only built once the call it is handed to runs. -/
def SubSelect.isInPlace : SubSelect → Bool
  | .inPlace _ => true
  | _ => false

def Step.compareAll (comparisons : List (String × List Operand)) : Step :=
  .nested .and (comparisons.map fun (column, arguments) => .compare .and column arguments)

mutual

def Step.apply (b : Builder) : Step → Except Misuse Builder
  | .fresh => return b.fresh
  | .table name => return b.table name
  | .source name => return b.source name
  | .sourceRaw raw => return b.sourceRaw raw
  | .sourceSub sub label => do
    let sub ← sub.build b
    return b.sourceSub sub label
  | .select columns => return b.select columns
  | .addSelect columns => return b.addSelect columns
  | .selectRaw raw => return b.selectRaw raw
  | .selectSub sub label => do
    let sub ← sub.build b
    return b.selectSub sub label
  | .distinct mode => return b.distinct mode
  | .groupBy columns => return b.groupBy columns
  | .groupByRaw raw => return b.groupByRaw raw
  | .orderBy column direction => return b.orderBy column direction
  | .orderByRaw raw => return b.orderByRaw raw
  | .orderBySub sub direction => do
    let sub ← sub.build b
    return b.orderBySub sub direction
  | .randomOrder => return b.randomOrder
  | .reorder => return b.reorder
  | .limit n => return b.limit n
  | .offset n => return b.offset n
  | .page page perPage => return b.page page perPage
  | .lock lock => return b.lock lock
  | .union all sub => do
    let sub ← sub.build b
    return b.union all sub
  | .join kind table first operator second => do
    let on ← b.joinConditions.on .and first operator second
    return b.join kind table on
  | .crossJoin table => return b.crossJoin table
  | .joinWith kind table steps => do
    let on ← Step.applyAll b.joinConditions steps
    return b.join kind table on
  | .joinSub kind sub label first operator second => do
    let sub ← sub.build b
    let on ← b.joinConditions.on .and first operator second
    return b.joinSub kind sub label on
  | .on connector first operator second => b.on connector first operator second
  | .compare connector column arguments => b.compare connector column arguments
  | .nested connector steps => do
    let child ← Step.applyAll b.nestedConditions steps
    return b.nested connector child
  | .conditionRaw connector raw => return b.conditionRaw connector raw
  | .between connector column low high negated =>
    return b.between connector column low high negated
  | .inList connector column operands negated => return b.inList connector column operands negated
  | .inSub column sub negated => do
    let sub ← sub.build b
    return b.inSub column sub negated
  | .isNull connector column negated => return b.isNull connector column negated
  | .compareColumns connector first arguments => b.compareColumns connector first arguments
  | .holdsRow connector sub negated => do
    let sub ← sub.build b
    return b.holdsRow connector sub negated
  | .compareSub column operator sub => do
    if sub.isInPlace then discard (checkedOperator operator)
    let sub ← sub.build b
    b.compareSub column operator sub
  | .compareDate connector part column arguments => b.compareDate connector part column arguments
  | .having connector column arguments => b.having connector column arguments
  | .havingRaw connector raw => return b.havingRaw connector raw
  | .havingBetween column low high => return b.havingBetween column low high
  | .havingNull column negated => return b.havingNull column negated

def Step.applyAll (b : Builder) : List Step → Except Misuse Builder
  | [] => return b
  | step :: steps => do
    let next ← Step.apply b step
    Step.applyAll next steps

def SubSelect.build (b : Builder) : SubSelect → Except Misuse Builder
  | .inPlace steps => Step.applyAll b.fresh steps
  | .made setting steps => Step.applyAll { setting } steps
  | .copied steps => Step.applyAll b steps

end

end SqlComposer
