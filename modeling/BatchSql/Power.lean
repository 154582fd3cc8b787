-- Powers of numbers are those of core, also beside a library that has powers of its own.
attribute [instance (high + 1), default_instance (high + 1)] instPowNat
