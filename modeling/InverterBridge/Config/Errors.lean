import InverterBridge.Config.Faithful
import InverterBridge.Lib.Outcome

open Python

namespace inverter_bridge.config

/-! ## What each access makes of the document, in the loader's order -/

section

variable (env : Environment) (data : PyValue)

/-- `int()` of a given value: a text that is no number is rejected, and so is NaN. -/
def int_verdict : Option PyValue → Verdict
  | none | some (.scalar (.bool _)) | some (.scalar (.int _)) | some (.scalar (.float (.finite _))) =>
    .fine
  | some (.scalar (.float .nan)) => .rejected
  | some (.scalar (.str s)) =>
    if (read_int env.decimal_digit 10 s).isSome then .fine else .rejected
  | some _ => .crashes

/-- `float()` of a given value: an integer that is too large is no `ValueError`. -/
def float_verdict : Option PyValue → Verdict
  | none | some (.scalar (.bool _)) | some (.scalar (.float _)) => .fine
  | some (.scalar (.int n)) =>
    match float_of_int n with
    | .ok _ => .fine
    | .error _ => .crashes
  | some (.scalar (.str s)) =>
    if (read_float env.decimal_digit s).isSome then .fine else .rejected
  | some _ => .crashes

/-- A key that is read without a check. -/
def required_verdict (v : Option PyValue) : Verdict := if v.isSome then .fine else .crashes

/-- The value that is read with `.get`: a mapping. -/
def mapping_verdict : PyValue → Verdict
  | .dict _ => .fine
  | _ => .crashes

/-- The address that `_parse_int_or_hex` makes of a value. -/
def address : PyValue → Option Int
  | .scalar (.bool b) => some (if b then 1 else 0)
  | .scalar (.int n) => some n
  | .scalar (.str s) => read_int env.decimal_digit 0 s
  | _ => none

/-- An inverter, beside the addresses already seen, and what follows it when its own address
is new. -/
def entry_verdict (seen_slaves : List modbus.SlaveId) (entry : PyValue)
    (rest : modbus.SlaveId → Verdict) : Verdict :=
  match PyValue.lookup "slave" (entries_of entry) with
  | none => .crashes
  | some v =>
    match (address env v).bind slave_id with
    | none => .rejected
    | some slave =>
      if seen_slaves.contains slave then .rejected
      else
        first [required_verdict (PyValue.lookup "name" (entries_of entry)),
          required_verdict (PyValue.lookup "port" (entries_of entry)), rest slave]

/-- The inverters one by one, beside the addresses already seen. -/
def entries_verdict (seen_slaves : List modbus.SlaveId) : List PyValue → Verdict
  | [] => .fine
  | entry :: entries =>
    entry_verdict env seen_slaves entry fun slave =>
      entries_verdict (seen_slaves ++ [slave]) entries

/-- The `inverters`, which are not empty: whatever else is no list of mappings fails. -/
def inverters_verdict : PyValue → Verdict
  | .list items => entries_verdict env [] items
  | _ => .crashes

/-- The `mqtt` section. -/
def mqtt_verdicts (mq : PyValue) : List Verdict :=
  match mq with
  | .dict entries =>
    match PyValue.lookup "password_file" entries with
    | none => [.rejected]
    | some (.scalar (.str path)) =>
      if env.file_exists path then
        [required_verdict (PyValue.lookup "host" entries),
          required_verdict (PyValue.lookup "username" entries),
          int_verdict env (PyValue.lookup "port" entries), int_verdict env (PyValue.lookup "qos" entries)]
      else [.rejected]
    | some _ => [.crashes]
  -- a list or a text that mentions the key cannot be asked for it
  | .list _ | .scalar (.str _) =>
    if (mq.contains "password_file").toOption = some false then [.rejected] else [.crashes]
  | .scalar _ => [.crashes]

/-- A section is asked with `.get`, then each of its numbers is converted. -/
def polling_verdicts (poll_data : PyValue) : List Verdict :=
  let number k := PyValue.lookup k (entries_of poll_data)
  [mapping_verdict poll_data, float_verdict env (number "hot_interval_s"),
    float_verdict env (number "cold_interval_s"), float_verdict env (number "serial_timeout_s"),
    float_verdict env (number "inter_query_delay_s"), int_verdict env (number "retry_attempts"),
    float_verdict env (number "retry_backoff_s")]

/-- The serials, when they are given. -/
def serials_verdict (found : Option PyValue) : Verdict :=
  match unless_null found with
  | none => .fine
  | some v => if (as_strings v).toOption.isSome then .fine else .rejected

/-- What is converted of the `bms` section; the checks that follow raise `ValueError` only. -/
def bms_verdicts (bms_data : PyValue) : List Verdict :=
  let value k := PyValue.lookup k (entries_of bms_data)
  [mapping_verdict bms_data, serials_verdict (value "pack_serials"),
    int_verdict env (value "pack_count"), float_verdict env (value "poll_fast_interval_s"),
    float_verdict env (value "poll_slow_interval_s"), float_verdict env (value "inter_pack_delay_s"),
    float_verdict env (value "connect_timeout_s"), float_verdict env (value "reconnect_initial_backoff_s"),
    float_verdict env (value "reconnect_max_backoff_s"), float_verdict env (value "stale_pack_timeout_s")]

/-- All that is checked or assumed of a document, in order. -/
def verdicts : List Verdict :=
  match data with
  | .dict entries =>
    match PyValue.lookup "inverters" entries, PyValue.lookup "mqtt" entries with
    | some invs, some mq =>
      if invs.truthy then
        inverters_verdict env invs :: mqtt_verdicts env mq ++
          (polling_verdicts env ((PyValue.lookup "polling" entries).getD (.dict [])) ++
            (mapping_verdict ((PyValue.lookup "logging" entries).getD (.dict [])) ::
              bms_verdicts env ((PyValue.lookup "bms" entries).getD (.dict []))))
      else [.rejected]
    | _, _ => [.rejected]
  | _ => [.rejected]

end

/-! ## The outcome of each access -/

section

variable {env : Environment} {entries : List (Scalar × PyValue)} {k : String} {v : PyValue}

end

end inverter_bridge.config
