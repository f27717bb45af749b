import SqlComposer.Fragment.Context
import SqlComposer.Schema.Column

/-!
The queries that ask a database for its version, its tables and their parts.
-/

namespace SqlComposer.Dialect

def versionQuery : Dialect → Statement
  | sqlite => ⟨"select sqlite_version() as version", []⟩
  | _ => ⟨"select version() as version", []⟩

def tableListing : Dialect → Statement
  | generic =>
    ⟨"select table_name as name from information_schema.tables " ++
      "where table_type = 'BASE TABLE' order by table_name", []⟩
  | mysql =>
    ⟨"select table_name as name from information_schema.tables " ++
      "where table_schema = database() and table_type = 'BASE TABLE' order by table_name", []⟩
  | postgres =>
    ⟨"select table_name::text as name from information_schema.tables " ++
      "where table_schema = current_schema() and table_type = 'BASE TABLE' " ++
      "order by table_name", []⟩
  | sqlite =>
    ⟨"select name from sqlite_master " ++
      "where type = 'table' and name not like 'sqlite_%' order by name", []⟩

def tableCount (d : Dialect) (table : String) : Statement :=
  ⟨match d with
    | generic =>
      "select count(*) as aggregate from information_schema.tables " ++
        "where table_type = 'BASE TABLE' and table_name = ?"
    | mysql =>
      "select count(*) as aggregate from information_schema.tables " ++
        "where table_schema = database() and table_type = 'BASE TABLE' and table_name = ?"
    | postgres =>
      "select count(*) as aggregate from information_schema.tables " ++
        "where table_schema = current_schema() and table_type = 'BASE TABLE' " ++
        "and table_name = $1"
    | sqlite =>
      "select count(*) as aggregate from sqlite_master where type = 'table' and name = ?",
    [.text table]⟩

def columnListing (d : Dialect) (table : String) : Statement :=
  ⟨match d with
    | generic =>
      "select column_name as name, data_type as native_type, is_nullable as nullable, " ++
        "column_default as default_value, character_maximum_length as length, " ++
        "numeric_precision as `precision`, numeric_scale as scale, " ++
        "'' as extra, '' as comment " ++
        "from information_schema.columns where table_name = ? order by ordinal_position"
    | mysql =>
      "select column_name as name, column_type as native_type, is_nullable as nullable, " ++
        "column_default as default_value, " ++
        "cast(character_maximum_length as signed) as length, " ++
        "cast(numeric_precision as signed) as `precision`, " ++
        "cast(numeric_scale as signed) as scale, " ++
        "extra, column_comment as comment " ++
        "from information_schema.columns " ++
        "where table_schema = database() and table_name = ? " ++
        "order by ordinal_position"
    | postgres =>
      "select column_name::text as name, data_type::text as native_type, " ++
        "udt_name::text as udt_name, is_nullable::text as nullable, " ++
        "column_default::text as default_value, " ++
        "character_maximum_length::int8 as length, " ++
        "numeric_precision::int8 as \"precision\", numeric_scale::int8 as scale, " ++
        "case when column_default like 'nextval(%' then 'auto_increment' else '' end as extra, " ++
        "col_description(format('%I.%I', table_schema, table_name)::regclass, " ++
        "ordinal_position::int) as comment " ++
        "from information_schema.columns " ++
        "where table_schema = current_schema() and table_name = $1 " ++
        "order by ordinal_position"
    | sqlite =>
      "select name, type as native_type, " ++
        "case when \"notnull\" = 0 then 'YES' else 'NO' end as nullable, " ++
        "dflt_value as default_value, pk from pragma_table_info(?) order by cid",
    [.text table]⟩

def indexListing (d : Dialect) (table : String) : Statement :=
  ⟨match d with
    | generic =>
      "select tc.constraint_name as index_name, kcu.column_name as column_name, " ++
        "tc.constraint_type as constraint_type " ++
        "from information_schema.table_constraints tc " ++
        "join information_schema.key_column_usage kcu " ++
        "on kcu.constraint_name = tc.constraint_name and kcu.table_name = tc.table_name " ++
        "where tc.table_name = ? and tc.constraint_type in ('PRIMARY KEY', 'UNIQUE') " ++
        "order by tc.constraint_name, kcu.ordinal_position"
    | mysql =>
      "select index_name, column_name, cast(non_unique as signed) as non_unique " ++
        "from information_schema.statistics " ++
        "where table_schema = database() and table_name = ? " ++
        "order by index_name, seq_in_index"
    | postgres =>
      "select i.relname::text as index_name, a.attname::text as column_name, " ++
        "ix.indisunique as is_unique, ix.indisprimary as is_primary " ++
        "from pg_index ix " ++
        "join pg_class t on t.oid = ix.indrelid " ++
        "join pg_class i on i.oid = ix.indexrelid " ++
        "join pg_namespace n on n.oid = t.relnamespace " ++
        "join pg_attribute a on a.attrelid = t.oid and a.attnum = any(ix.indkey) " ++
        "where t.relname = $1 and n.nspname = current_schema() " ++
        "order by i.relname, array_position(ix.indkey::int2[], a.attnum)"
    | sqlite =>
      "select il.name as index_name, ii.name as column_name, " ++
        "il.\"unique\" as is_unique, il.origin as origin " ++
        "from pragma_index_list(?) as il, pragma_index_info(il.name) as ii " ++
        "order by il.name, ii.seqno",
    [.text table]⟩

def optionListing (d : Dialect) (c : Column) : Option Statement :=
  match d with
  | postgres =>
    c.nativeType.map fun native =>
      ⟨"select unnest(enum_range(null::" ++ d.quoteIdentifier native ++ "))::text as option", []⟩
  | _ => none

def definitionQuery (d : Dialect) (table : String) : Option Statement :=
  match d with
  | sqlite =>
    some ⟨"select sql from sqlite_master where type = 'table' and name = ?", [.text table]⟩
  | _ => none

end SqlComposer.Dialect
